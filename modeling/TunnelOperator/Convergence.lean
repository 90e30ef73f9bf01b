import TunnelOperator.AckHistory
import TunnelOperator.FaultlessRuns
import TunnelOperator.PortGauge

/-!
# Where the operator gets without faults

From every state that the operator can be in while no `Reconcile` runs: a `Reconcile` in which no
API call fails returns an error exactly if the Tunnel asks for something it cannot have. Three of
them make a Tunnel ready whose gateway comes up after the first and whose mapping the connected
forwarders acknowledge after the second, and one clears away a Tunnel that is being deleted or has
ended.
-/

namespace TunnelOperator
open Interaction TunnelReconciler Scenario

section Reachable

variable {r : TunnelReconciler} {minPort maxPort : Int} {w w' : World}

theorem World.exec_sound (h : w.Sound) (op : Op) (c : Choice) : (World.exec op c w).2.Sound where
  tunnels := World.exec_wf h.tunnels op c
  allocator := World.exec_allocator_wf h.allocator op c
  policies := fun hp => by
    rcases World.exec_policy_found hp with hp | ⟨-, rfl⟩
    · exact h.policies hp
    · rfl

theorem World.outside_policies {e : World.Outside} (h : w.outside e = some w') :
    w'.policies = w.policies := by
  rcases World.outside_cases h with ⟨key, finalizers, spec, -, hc⟩ | ⟨key, change, rfl, -⟩ |
    ⟨pods, rfl, -⟩
  · obtain ⟨-, rfl⟩ := World.createTunnel_eq hc
    rfl
  · exact World.writeTunnel_state (P := fun w' => w'.policies = w.policies) rfl
      fun current t _ _ => World.storeTunnel_policies t w
  · rfl

theorem World.outside_sound (h : w.Sound) {e : World.Outside} (he : w.outside e = some w') :
    w'.Sound where
  tunnels := (World.outside_evolves h.tunnels he).1
  allocator := by
    rw [(World.outside_sameProcess he).allocator]
    exact h.allocator
  policies := by
    rw [World.outside_policies he]
    exact h.policies

theorem World.restart_sound (h : w.Sound) {listed : Option (List Tunnel)}
    (he : w.restart minPort maxPort listed = some w') : w'.Sound := by
  have htunnels := (World.restart_sameTunnels he).1.wf h.tunnels
  unfold World.restart at he
  split at he
  · cases he
    exact ⟨htunnels, PortAllocator.new_wf _ _, h.policies⟩
  · split_ifs at he
    cases he
    exact ⟨htunnels, loadExistingAllocations_wf _ (PortAllocator.new_wf _ _), h.policies⟩

theorem World.initial_sound (minPort maxPort : Int) :
    (World.initial (.new minPort maxPort)).Sound where
  tunnels := World.initial_wf _
  allocator := PortAllocator.new_wf _ _
  policies := nofun

theorem reaches_sound {g : Config Op.Ans (Except String Result) NamespacedName World}
    (hg : (operator r minPort maxPort).Reaches {} (World.initial (.new minPort maxPort)) g) :
    g.state.Sound :=
  Machine.reaches_invariant (I := World.Sound) (fun _ _ _ h he => World.outside_sound h he)
    (fun _ _ _ h he => World.restart_sound h he) (fun _ _ h => h)
    (fun op c _ h => World.exec_sound h op c)
    (World.initial_sound minPort maxPort) hg

end Reachable

section Errors

variable {r : TunnelReconciler} {req : NamespacedName} {w : World} {t : Tunnel}

theorem reconcile_fails (hw : w.Sound) (ht : w.tunnels.lookup req = some t)
    (h : Unserviceable r w t) {ok : Choice → Prop} (hok : ∀ c, ok c → c.failure = none) :
    (r.reconcile req).Ensures World.exec ok (fun x _ => ∃ err, x = .error err) w := by
  obtain ⟨⟨hd, hphase⟩, hcause⟩ := h
  refine reconcile_found hok ht ?_
  rw [if_neg (by simp [hd]), if_neg hphase]
  cases hvalid : validateTunnelTarget t.spec.target with
  | error err => exact ⟨_, rfl⟩
  | ok _ =>
      have hport := hcause.resolve_left (not_not.mpr hvalid)
      refine activate_ensures hok hw ht hd fun base pod w' he => reconcileStatus_fails ?_
      rwa [PortAvailable, he.status, he.allocator, he.key, ← hw.tunnels.key ht]

theorem reconcile_active (hw : w.Sound) (ht : w.tunnels.lookup req = some t) (hlive : t.Live)
    (hvalid : validateTunnelTarget t.spec.target = .ok ()) (hport : PortAvailable r w.allocator t)
    {ok : Choice → Prop} (hok : ∀ c, ok c → c.failure = none) :
    Succeeds ok (r.reconcile req)
      (fun _ w' => (∃ t', w'.tunnels.lookup req = some t' ∧ t'.spec = t.spec ∧
        Republished r t' w') ∧
        ∃ pod, w'.pods.lookup (gatewayResourceKey req) = some pod ∧ FoundOrNew w req pod) w := by
  refine reconcile_found hok ht ?_
  rw [if_neg (by simp [hlive.1]), if_neg hlive.2, hvalid]
  refine activate_ensures hok hw ht hlive.1 fun base pod w₁ he => ?_
  have hport' : PortAvailable r w₁.allocator base := by
    rwa [PortAvailable, he.status, he.allocator, he.key, ← hw.tunnels.key ht]
  refine (reconcileStatus_succeeds hok he.stored he.key he.notDeleting hport').mono
    fun _ w₂ hkept => ?_
  obtain ⟨t', ⟨ht', hs, hpods⟩, hrepublished⟩ := hkept
  refine ⟨⟨t', ht', hs.trans he.spec, hrepublished⟩, pod, ?_, he.found⟩
  rw [hpods]
  exact he.hasPod

theorem reconcile_retires (hw : w.Sound) (ht : w.tunnels.lookup req = some t) (hlive : ¬ t.Live)
    {ok : Choice → Prop} (hok : ∀ c, ok c → c.failure = none) :
    Succeeds ok (r.reconcile req)
      (fun _ w' => (t.deletionTimestamp = true → finalizerName ∈ t.finalizers) →
        Retired r ok t w w') w := by
  have hstored : w.tunnels.lookup t.key = some t := by rwa [hw.tunnels.key ht]
  refine reconcile_found hok ht ?_
  cases hd : t.deletionTimestamp with
  | true =>
      rw [if_pos rfl]
      exact (handleDeletion_succeeds hok hstored hd).mono (fun _ _ h hf => h (hf rfl)) |>.done
  | false =>
      have hphase : t.status.phase = .terminated := by
        by_contra hne
        exact hlive ⟨hd, hne⟩
      rw [if_neg (by simp), if_pos hphase]
      exact ((handleTerminated_succeeds hok hstored hd).mono fun _ _ h _ => h).done

theorem reconcile_deletes_pod (hw : w.Sound) (ht : w.tunnels.lookup req = some t) (hlive : ¬ t.Live)
    (hfinalizer : t.deletionTimestamp = true → finalizerName ∈ t.finalizers) {c : ℕ → Choice}
    (hc : ∀ n, (c n).failure = none) (hpod : w.pods.lookup (gatewayResourceKey req) ≠ none) :
    Answered ((r.reconcile req).run World.exec c [] w).2.1 (.deletePod (gatewayResourceKey req))
      (.ok ()) := by
  obtain ⟨pod, hpod⟩ := Option.ne_none_iff_exists'.mp hpod
  have hread : (World.exec (.getTunnel req) (c 0) w).1 = .ok t := by
    change World.getResult (c 0) (w.tunnels.lookup req) = .ok t
    rw [ht, getResult_some (hc 0)]
  have hdelete : (World.exec (.deletePod (gatewayResourceKey req)) (c 1) w).1 = .ok () := by
    change (World.writeResult (c 1) w (w.deletePod (gatewayResourceKey req) (c 1).podLingers)).1 =
      .ok ()
    rw [writeResult_faultless (hc 1), World.deletePod, hpod]
  obtain ⟨next, hnext⟩ : ∃ next, r.reconcile req = .call (.getTunnel req) next ∧
      ∃ next', next (.ok t) = .call (.deletePod (gatewayResourceKey req)) next' := by
    refine ⟨_, rfl, ?_⟩
    rw [← hw.tunnels.key ht]
    simp only [Program.pure_bind]
    cases hd : t.deletionTimestamp with
    | true =>
        exact ⟨_, by rw [if_pos rfl, handleDeletion, if_neg (not_not.mpr (hfinalizer hd))]; rfl⟩
    | false =>
        have hphase : t.status.phase = .terminated := by
          by_contra hne
          exact hlive ⟨hd, hne⟩
        exact ⟨_, by rw [if_neg (by simp), if_pos hphase]; rfl⟩
  obtain ⟨hcall, next', hnext'⟩ := hnext
  rw [hcall, Program.run, hread, hnext', Program.run]
  refine Program.subset_run _ _ _ _ ?_
  rw [← hdelete]
  exact List.mem_append_right _ (List.mem_singleton_self _)

theorem reconcile_serviceable (hw : w.Sound)
    (h : ∀ t, w.tunnels.lookup req = some t → ¬ Unserviceable r w t) {ok : Choice → Prop}
    (hok : ∀ c, ok c → c.failure = none) :
    Succeeds ok (r.reconcile req) (fun _ _ => True) w := by
  cases ht : w.tunnels.lookup req with
  | none => exact (reconcile_missing hok ht).mono fun _ _ _ => trivial
  | some t =>
      by_cases hlive : t.Live
      · have hboth := not_and.mp (h t ht) hlive
        rw [not_or, not_not, not_not] at hboth
        exact (reconcile_active hw ht hlive hboth.1 hboth.2 hok).mono fun _ _ _ => trivial
      · exact (reconcile_retires hw ht hlive hok).mono fun _ _ _ => trivial

end Errors

/-- An undisturbed `Reconcile` in which no API call fails returns an error exactly if the Tunnel is
live and its target is not valid, or it needs a port and every port is taken. -/
theorem faultless_error_iff {r : TunnelReconciler} {minPort maxPort : Int}
    {g : Config Op.Ans (Except String Result) NamespacedName World}
    (hg : (operator r minPort maxPort).Reaches {} (World.initial (.new minPort maxPort)) g)
    (req : NamespacedName) {c : ℕ → Choice} (hc : ∀ n, (c n).failure = none) :
    (∃ err, ((r.reconcile req).run World.exec c [] g.state).1 = .error err) ↔
      ∃ t, g.state.tunnels.lookup req = some t ∧ t.Live ∧
        (validateTunnelTarget t.spec.target ≠ .ok () ∨
          (t.status.forwarderPort = 0 ∧ r.portAllocator = true ∧
            g.state.allocator.allocated.lookup (tunnelKey req) = none ∧
            ∀ p, g.state.allocator.minPort ≤ p → p ≤ g.state.allocator.maxPort →
              g.state.allocator.used.lookup p ≠ none)) := by
  have hw := reaches_sound hg
  have hunserviceable : ∀ t, g.state.tunnels.lookup req = some t →
    (Unserviceable r g.state t ↔ t.Live ∧
      (validateTunnelTarget t.spec.target ≠ .ok () ∨
        (t.status.forwarderPort = 0 ∧ r.portAllocator = true ∧
          g.state.allocator.allocated.lookup (tunnelKey req) = none ∧
          ∀ p, g.state.allocator.minPort ≤ p → p ≤ g.state.allocator.maxPort →
            g.state.allocator.used.lookup p ≠ none))) := by
    intro t ht
    rw [← hw.tunnels.key ht]
    simp only [Unserviceable, PortAvailable, not_or, not_not, not_exists, not_and, ne_eq,
      Bool.not_eq_false]
  constructor
  · rintro ⟨err, herr⟩
    by_contra hnone
    have hserviceable : ∀ t, g.state.tunnels.lookup req = some t → ¬ Unserviceable r g.state t := by
      intro t ht hu
      exact hnone ⟨t, ht, (hunserviceable t ht).mp hu⟩
    obtain ⟨result, hok, -⟩ := (reconcile_serviceable hw hserviceable fun _ h => h).run hc []
    rw [hok] at herr
    cases herr
  · rintro ⟨t, ht, hu⟩
    exact (reconcile_fails hw ht ((hunserviceable t ht).mpr hu) fun _ h => h).run hc []

namespace Scenario

/-- The store once a user has created the Tunnel `key`. -/
def afterCreation (finalizers : List String) (spec : TunnelSpec) : World :=
  { World.initial (.new 1 1) with
    tunnels := AList.insert key ⟨key, 0, 1, false, finalizers, spec, {}⟩ ∅
    nextUid := 1
    version := 1 }

theorem reaches_afterCreation (r : TunnelReconciler) (finalizers : List String)
    (spec : TunnelSpec) :
    (operator r 1 1).Reaches {} (World.initial (.new 1 1)) ⟨afterCreation finalizers spec, none⟩ :=
  .step (.env (.createTunnel key finalizers spec)) .init trivial rfl

def targetlessSpec : TunnelSpec := ⟨⟨"db", 5432, "", none⟩, "client-key", none⟩

end Scenario

theorem faultless_error_iff_targetless : ∃ err,
    ((provisioningReconciler.reconcile key).run World.exec (fun _ => {}) []
      (afterCreation [] targetlessSpec)).1 =
      .error err := by
  refine (faultless_error_iff (reaches_afterCreation provisioningReconciler [] targetlessSpec) key
    (fun _ => rfl)).mpr ⟨⟨key, 0, 1, false, [], targetlessSpec, {}⟩, rfl, ⟨rfl, by decide⟩,
    Or.inl ?_⟩
  decide

section Rounds

variable {r : TunnelReconciler} {req : NamespacedName} {a : Answers} {w w' : World} {t t' : Tunnel}
  {pod : Pod} {s : TunnelStatus}

theorem answering_faultless (a : Answers) (op : Op) (c : Choice) (w : World) :
    ∃ c', c'.failure = c.failure ∧ answering a op c w = World.exec op c' w := by
  cases op with
  | getService key => exact ⟨{ c with service := a (.getService key) }, rfl, rfl⟩
  | fetchGatewayStatus pod =>
      exact ⟨{ c with gatewayStatus := a (.fetchGatewayStatus pod) }, rfl, rfl⟩
  | missingAcks ns name revision =>
      exact ⟨{ c with missing := a (.missingAcks ns name revision) }, rfl, rfl⟩
  | _ => exact ⟨c, rfl, rfl⟩

/-- What a faultless round on `w` for the live Tunnel `t` leaves: the Tunnel `t'` with the status
that the evaluation makes of `s`, and its Pod. -/
structure RoundEnds (r : TunnelReconciler) (req : NamespacedName) (a : Answers) (w : World)
    (t : Tunnel) (w' : World) (t' : Tunnel) (pod : Pod) (s : TunnelStatus) : Prop where
  sound : w'.Sound
  stored : w'.tunnels.lookup req = some t'
  spec : t'.spec = t.spec
  notDeleting : t'.deletionTimestamp = false
  hasPod : w'.pods.lookup (gatewayResourceKey req) = some pod
  found : FoundOrNew w req pod
  settled : t'.status = r.settle a req pod s
  phase : s.phase = t.status.phase
  podIP : t'.status.gatewayPodIP = pod.status.podIP
  port : t'.status.forwarderPort ≠ 0 ∨ r.portAllocator = false
  recorded : podDiffers t'.status (gatewayResourceName req.name) pod = false
  kept : (t.status.forwarderPort ≠ 0 ∨ r.portAllocator = false) →
    podDiffers t.status (gatewayResourceName req.name) pod = false → s = t.status
  republished : Republished r t' w'

theorem faultless_round (hw : w.Sound) (ht : w.tunnels.lookup req = some t) (hlive : t.Live)
    (hvalid : validateTunnelTarget t.spec.target = .ok ()) (hport : PortAvailable r w.allocator t)
    (a : Answers) {c : ℕ → Choice} (hc : ∀ n, (c n).failure = none) :
    ∃ t' pod s, RoundEnds r req a w t (reconcileAnswered r req a c w).2.2 t' pod s := by
  have hexec : ∀ op c w, Choice.failure c = none →
      ∃ c', Choice.failure c' = none ∧ answering a op c w = World.exec op c' w := by
    intro op c w hc
    obtain ⟨c', hc', heq⟩ := answering_faultless a op c w
    exact ⟨c', hc'.trans hc, heq⟩
  obtain ⟨result, hok, ⟨t', ht', hspec, hrepublished⟩, pod, hpod, hfound⟩ :=
    ((reconcile_active hw ht hlive hvalid hport fun _ h => h).of_exec hexec).run hc []
  have hsound : (reconcileAnswered r req a c w).2.2.Sound := by
    have hkeeps : ∀ op c w, True → World.Sound w → (answering a op c w).2.Sound := by
      intro op c w _ h
      obtain ⟨c', -, heq⟩ := answering_faultless a op c w
      rw [heq]
      exact World.exec_sound h op c'
    exact (Program.ensures_of_keeps hkeeps (r.reconcile req) hw).run (fun _ => trivial) []
  obtain ⟨hreturns, hr, h, -⟩ :=
    reconcileAnswered_steady (r := r) (a := a) hw.tunnels hw.allocator ht hlive c
  have hconf := reconcileAnswered_configured r req a c w
  rw [show (reconcileAnswered r req a c w).1 = .ok result from hok] at hreturns
  obtain ⟨base, pod', allocated, changed, m, e, t₁, hcomp, hpers⟩ :=
    h.returns_computed hlive hreturns
  obtain ⟨t'', ht'', hstatus⟩ := h.leaves_status hr hconf hcomp hpers
  obtain ⟨hkey, hbase⟩ := h.base_eq hr hcomp.active
  obtain rfl : t' = t'' := Option.some.inj (ht'.symm.trans ht'')
  obtain rfl : pod = pod' :=
    Option.some.inj (hpod.symm.trans (h.hasPod hr hcomp.active hcomp.hasPod))
  have hmapping := hcomp.evaluated.sameMapping
  have hsettled := hcomp.settled (h.consistent hconf) h.port_ne_zero
    ((hsound.tunnels.key ht').trans hkey.symm) hstatus
  refine ⟨t', pod, m.status, hsound, ht', hspec, h.alive ht', hpod, hfound, ?_, ?_, ?_,
    hsettled.port, ?_, fun hport hdiffers => ?_, hrepublished⟩
  · rw [hstatus, hcomp.evaluated.status (h.consistent hconf), hcomp.toMapped.key_eq, hkey]
  · rw [hcomp.toMapped.phase, hbase]
  · rw [hstatus, hmapping.gatewayPodIP, hcomp.toMapped.gatewayPodIP]
  · have hrecorded := hsettled.recorded
    rwa [hsound.tunnels.key ht'] at hrecorded
  · rw [← hbase] at hport hdiffers
    rw [(hcomp.toMapped.eq_of_recorded hport (by rwa [hkey])).2, hbase]

theorem RoundEnds.pod_eq {pod₀ : Pod} (h : RoundEnds r req a w t w' t' pod s)
    (hpod : w.pods.lookup (gatewayResourceKey req) = some pod₀) : pod = pod₀ := by
  rcases h.found with hfound | ⟨hnone, -⟩
  · exact Option.some.inj (hfound.symm.trans hpod)
  · rw [hpod] at hnone
    cases hnone

theorem settle_phase_ne_terminated (hpod : pod.status.phase ≠ .succeeded)
    (hs : s.phase ≠ .terminated) :
    (r.settle a req pod s).phase ≠ .terminated := by
  have hendpoint : ∀ s' : TunnelStatus, (r.withEndpoint a s').phase = s'.phase := by
    intro s'
    unfold withEndpoint
    cases r.vip a <;> rfl
  unfold settle
  split_ifs with hfailed hready
  · unfold settleFinal
    split_ifs
    · exact hs
    · exact nofun
  · unfold settleReady
    by_cases hip : pod.status.podIP = ""
    · rwa [if_pos hip, hendpoint]
    · rw [if_neg hip]
      cases a (.fetchGatewayStatus pod) with
      | error err => rwa [hendpoint]
      | ok pubKey =>
          dsimp only
          split_ifs
          · rwa [hendpoint]
          · rw [hendpoint]
            exact nofun
          · exact nofun
  · exact nofun

/-- The gateway has come up and shows its key, and the address of the forwarders is known. -/
structure ComesUp (r : TunnelReconciler) (a : Answers) (pod : Pod) (publicKey vip : String) :
    Prop where
  notFailed : pod.status.phase ≠ .failed
  notSucceeded : pod.status.phase ≠ .succeeded
  ready : isPodReady pod = true
  podIP : pod.status.podIP ≠ ""
  fetched : a (.fetchGatewayStatus pod) = .ok publicKey
  publicKey : publicKey ≠ ""
  vip : r.vip a = some vip

/-- The answers `a`, except that `MissingAcks` is answered by the forwarder server. -/
def Answers.withServer (a : Answers) (server : ForwarderServer) : Answers
  | .missingAcks ns name revision => server.missingAcks ns name revision
  | op => a op

theorem ComesUp.withServer {publicKey vip : String} (h : ComesUp r a pod publicKey vip)
    (server : ForwarderServer) : ComesUp r (a.withServer server) pod publicKey vip :=
  { h with }

theorem ComesUp.settle_eq {publicKey vip : String} (h : ComesUp r a pod publicKey vip)
    (s : TunnelStatus) : r.settle a req pod s =
      if r.Acknowledged a req s then { s with
        gatewayPublicKey := publicKey, phase := .ready, message := "Gateway ready"
        forwarderEndpoint := GoText.joinHostPort vip (GoText.itoa s.forwarderPort) }
      else { s with
        gatewayPublicKey := publicKey, phase := .provisioning
        message := "Waiting for forwarder mapping acknowledgement" } := by
  rw [settle, if_neg h.notFailed, if_neg h.notSucceeded, if_pos h.ready, settleReady,
    if_neg h.podIP, h.fetched]
  simp only [if_neg h.publicKey, withEndpoint, h.vip]

theorem ComesUp.settle_kept {publicKey vip : String} (h : ComesUp r a pod publicKey vip)
    (req : NamespacedName) (s : TunnelStatus) :
    (r.settle a req pod s).gatewayPublicKey = publicKey ∧
      (r.settle a req pod s).mappingRevision = s.mappingRevision ∧
      ((r.settle a req pod s).phase = .ready ↔ r.Acknowledged a req s) ∧
      (r.settle a req pod s).phase ≠ .terminated := by
  rw [h.settle_eq s]
  by_cases hack : r.Acknowledged a req s
  · rw [if_pos hack]
    exact ⟨rfl, rfl, by simp [hack], by simp⟩
  · rw [if_neg hack]
    exact ⟨rfl, rfl, by simp [hack], by simp⟩

theorem setPodStatus_stored (hw : w.Sound)
    (hpod : w.pods.lookup (gatewayResourceKey req) = some pod) (status : PodStatus) :
    ∃ w', w.outside (.setPodStatus (gatewayResourceKey req) status) = some w' ∧ w'.Sound ∧
      w'.tunnels = w.tunnels ∧
      w'.pods.lookup (gatewayResourceKey req) = some { pod with status := status } := by
  have houtside : w.outside (.setPodStatus (gatewayResourceKey req) status) =
      some { w with
        pods := w.pods.insert (gatewayResourceKey req) { pod with status := status } } := by
    simp only [World.outside, hpod, Option.map_some]
  refine ⟨_, houtside, World.outside_sound hw houtside, rfl, ?_⟩
  exact (Table.lookup_insert_eq _ _ _ _).trans (if_pos rfl)

end Rounds

namespace Scenario

def addressedReconciler : TunnelReconciler := ⟨true, true, ⟨"", ""⟩, "192.0.2.1", "", ""⟩

def upAnswers : Answers :=
  fun op => (World.exec op { gatewayStatus := .ok "gateway-key" } (World.initial (.new 1 1))).1

theorem comesUp_running (pod : Pod) (h : pod.status = running "10.0.0.7") :
    ComesUp addressedReconciler upAnswers pod "gateway-key" "192.0.2.1" where
  notFailed := by rw [h]; decide
  notSucceeded := by rw [h]; decide
  ready := by rw [isPodReady, h]; rfl
  podIP := by rw [h]; decide
  fetched := rfl
  publicKey := by decide
  vip := rfl

def connectedForwarder : List AckEvent := [.addStream 0 "f"]

/-- The forwarder acknowledges the second revision of the mapping. -/
def acknowledgingForwarder : List AckEvent :=
  connectedForwarder ++ [.ack ⟨"f", key.name, key.ns, 2⟩]

end Scenario

/-- From every state of the operator, one faultless round clears away a Tunnel that is being deleted
under the operator's finalizer, or has ended: its policy and its port are gone, its Pod is gone or
its deletion has been accepted, and the Tunnel is gone unless others hold it. -/
theorem retiring_tunnel_cleared {r : TunnelReconciler} {minPort maxPort : Int}
    {g : Config Op.Ans (Except String Result) NamespacedName World}
    (hg : (operator r minPort maxPort).Reaches {} (World.initial (.new minPort maxPort)) g)
    {req : NamespacedName} {t : Tunnel} (ht : g.state.tunnels.lookup req = some t)
    (hlive : ¬ t.Live) (hfinalizer : t.deletionTimestamp = true → finalizerName ∈ t.finalizers)
    {c : ℕ → Choice} (hc : ∀ n, (c n).failure = none) :
    let run := (r.reconcile req).run World.exec c [] g.state
    (∃ result, run.1 = .ok result) ∧
      (run.2.2.pods.lookup (gatewayResourceKey req) = none ∨
        Answered run.2.1 (.deletePod (gatewayResourceKey req)) (.ok ())) ∧
      ((∀ n, (c n).podLingers = false) → run.2.2.pods.lookup (gatewayResourceKey req) = none) ∧
      run.2.2.policies.lookup (gatewayResourceKey req) = none ∧
      (r.portAllocator = true → run.2.2.allocator.allocated.lookup (tunnelKey req) = none) ∧
      ((∀ f ∈ t.finalizers, f = finalizerName) → run.2.2.tunnels.lookup req = none) := by
  have hw := reaches_sound hg
  have hretires : Succeeds (fun x => x.failure = none ∧ ∃ n, c n = x) (r.reconcile req) _ g.state :=
    reconcile_retires hw ht hlive fun _ h => h.1
  obtain ⟨result, hok, hretired⟩ := hretires.run (c := c) (fun n => ⟨hc n, n, rfl⟩) []
  obtain ⟨⟨hpod, hpolicy⟩, hport, htunnel⟩ := hretired hfinalizer
  rw [hw.tunnels.key ht] at hpod hpolicy hport htunnel
  refine ⟨⟨result, hok⟩, ?_, fun hprompt => ?_, hpolicy, hport, htunnel⟩
  · exact hpod.imp_right fun h => reconcile_deletes_pod hw ht hlive hfinalizer hc h.1
  · rcases hpod with hgone | ⟨-, _, ⟨-, n, rfl⟩, hlingers⟩
    · exact hgone
    · rw [hprompt n] at hlingers
      cases hlingers

namespace Scenario

def deletedWithGateway : List (Event NamespacedName Choice World.Outside (Option (List Tunnel))) :=
  .env (.createTunnel key [] spec) :: .start key :: (calls 10 ++ [.env (.deleteTunnel key)])

end Scenario

/-- The Pod of a deleted Tunnel lingers, and everything else is gone. -/
theorem retiring_tunnel_cleared_deleted : ∃ g,
    (operator provisioningReconciler 1 1).Reaches {} (World.initial (.new 1 1)) g ∧
    let run := (provisioningReconciler.reconcile key).run World.exec
      (fun _ => { podLingers := true }) [] g.state
    run.2.2.pods.lookup (gatewayResourceKey key) ≠ none ∧
      Answered run.2.1 (.deletePod (gatewayResourceKey key)) (.ok ()) ∧
      run.2.2.policies.lookup (gatewayResourceKey key) = none ∧
      run.2.2.tunnels.lookup key = none := by
  obtain ⟨g, hg, hP⟩ := Machine.exists_free_reaches (M := operator provisioningReconciler 1 1)
    (s := World.initial (.new 1 1)) (l := deletedWithGateway)
    (P := fun g => (g.state.tunnels.lookup key).any (fun t =>
        t.deletionTimestamp ∧ t.finalizers = [finalizerName]) &&
      (((provisioningReconciler.reconcile key).run World.exec (fun _ => { podLingers := true }) []
        g.state).2.2.pods.lookup (gatewayResourceKey key)).isSome) (by rfl)
  rw [Bool.and_eq_true] at hP
  obtain ⟨t, ht, hdeleted⟩ := (Option.any_eq_true ..).mp hP.1
  obtain ⟨hd, hf⟩ := of_decide_eq_true hdeleted
  have hlingers := Option.isSome_iff_ne_none.mp hP.2
  obtain ⟨-, hpod, -, hpolicy, -, htunnel⟩ := retiring_tunnel_cleared hg ht
    (fun h => by rw [h.1] at hd; cases hd) (fun _ => by rw [hf]; exact List.mem_singleton_self _)
    (c := fun _ => { podLingers := true }) (fun _ => rfl)
  refine ⟨g, hg, hlingers, hpod.resolve_left hlingers, hpolicy, htunnel fun f h => ?_⟩
  rw [hf] at h
  exact List.mem_singleton.mp h

end TunnelOperator
