import TunnelOperator.Reconcile

/-!
# What a reconciliation can do next

The calls of one `Reconcile` bound the calls that may follow them, whatever the
answers were. `Next` states this bound for every operation, and `reconcile_traces`
proves it once for the whole program; every property of runs of the reconciler is
derived from it together with the meaning of the operations. All conditions only ask
for calls to have been made, so they persist along the trace.
-/

namespace TunnelOperator
open Interaction

abbrev Trace := List (Call Op.Ans)

def Answered (tr : Trace) (op : Op) (a : op.Ans) : Prop := (⟨op, a⟩ : Call Op.Ans) ∈ tr

theorem Answered.mono {tr tr' : Trace} (h : tr ⊆ tr') {op : Op} {a : op.Ans}
    (ha : Answered tr op a) : Answered tr' op a := h ha

@[simp] theorem answered_last (tr : Trace) (op : Op) (a : op.Ans) :
    Answered (tr ++ [⟨op, a⟩]) op a := List.mem_append_right _ (List.mem_singleton_self _)

namespace TunnelReconciler

variable (r : TunnelReconciler) (req : NamespacedName)

/-- The Tunnel was read alive, and `base` is the object that carries the finalizer. -/
structure Active (tr : Trace) (t₀ base : Tunnel) : Prop where
  read : Answered tr (.getTunnel req) (.ok t₀)
  notDeleting : t₀.deletionTimestamp = false
  notTerminated : t₀.status.phase ≠ .terminated
  valid : validateTunnelTarget t₀.spec.target = .ok ()
  owned : (finalizerName ∈ t₀.finalizers ∧ base = t₀) ∨
    (finalizerName ∉ t₀.finalizers ∧ Answered tr (.updateTunnel (addFinalizer t₀)) (.ok base))

/-- The Tunnel was read while it was being deleted, or as Terminated. -/
structure Retiring (tr : Trace) (t₀ : Tunnel) : Prop where
  read : Answered tr (.getTunnel req) (.ok t₀)
  retired : t₀.deletionTimestamp = true ∨ t₀.status.phase = .terminated

def Gone (a : Except ApiError Unit) : Prop := a = .ok () ∨ a = .error .notFound

def GatewayDeleted (tr : Trace) (key : NamespacedName) : Prop :=
  (∃ a, Answered tr (.deletePod (gatewayResourceKey key)) a ∧ Gone a) ∧
    ∃ a, Answered tr (.deleteNetworkPolicy (gatewayResourceKey key)) a ∧ Gone a

/-- The finalizer is gone from `t₀`: it was never there, or the API server accepted its
removal after the gateway resources had been deleted. -/
structure Dropped (tr : Trace) (t₀ t : Tunnel) : Prop where
  retiring : Retiring req tr t₀
  dropped : (finalizerName ∉ t₀.finalizers ∧ t = t₀) ∨
    (finalizerName ∈ t₀.finalizers ∧ GatewayDeleted tr t₀.key ∧
      Answered tr (.updateTunnel (removeFinalizer t₀)) (.ok t))

def HasPod (tr : Trace) (base : Tunnel) (pod : Pod) : Prop :=
  Answered tr (.getPod (gatewayResourceKey base.key)) (.ok pod) ∨
    (Answered tr (.getPod (gatewayResourceKey base.key)) (.error .notFound) ∧
      Answered tr (.createPod (gatewayPod r base)) (.ok pod))

def HasPolicy (tr : Trace) (base : Tunnel) : Prop :=
  Answered tr (.createNetworkPolicy (networkPolicy base)) (.ok ()) ∨
    ∃ existing, Answered tr (.getNetworkPolicy (gatewayResourceKey base.key)) (.ok existing) ∧
      (mutatePolicy base existing = existing ∨
        Answered tr (.updateNetworkPolicy (mutatePolicy base existing)) (.ok ()))

def HasPort (tr : Trace) (base t : Tunnel) (allocated : Bool) : Prop :=
  (allocated = false ∧ t = base ∧ (base.status.forwarderPort ≠ 0 ∨ r.portAllocator = false)) ∨
    (allocated = true ∧ base.status.forwarderPort = 0 ∧ r.portAllocator = true ∧
      ∃ p, Answered tr (.allocate (tunnelKey base.key)) (.ok p) ∧
        t = { base with status.forwarderPort := p })

/-- The Tunnel as it enters `evaluatePodPhase`. -/
def mapped (base t : Tunnel) (pod : Pod) (changed : Bool) : Tunnel :=
  { t with status :=
      bumpRevision (recordPod t.status (gatewayResourceName base.key.name) pod) changed }

def mappingChanged (base t : Tunnel) (pod : Pod) (allocated : Bool) : Bool :=
  allocated || podDiffers t.status (gatewayResourceName base.key.name) pod

/-- The forwarder address `resolveForwarderVIP` found. -/
def Vip (tr : Trace) (vip : String) : Prop :=
  vip ≠ "" ∧ (vip = r.forwarderVIP ∨ (r.forwarderVIP = "" ∧ ∃ svc,
    Answered tr (.getService r.forwarderServiceKey) (.ok svc) ∧
      svc.ingressIPs.find? (· ≠ "") = some vip))

def VipUnavailable (tr : Trace) : Prop :=
  r.forwarderVIP = "" ∧ (r.forwarderServiceKey.name = "" ∨
    (∃ err, Answered tr (.getService r.forwarderServiceKey) (.error err)) ∨
    ∃ svc, Answered tr (.getService r.forwarderServiceKey) (.ok svc) ∧
      svc.ingressIPs.find? (· ≠ "") = none)

def vipEndpoint (t : Tunnel) (vip : String) : String :=
  GoText.joinHostPort vip (GoText.itoa t.status.forwarderPort)

/-- The outcome of `updateForwarderEndpoint`. -/
inductive EndpointUpdated (tr : Trace) (e : Evaluation) : Evaluation → Prop where
  | unchanged (vip : String) : Vip r tr vip → e.tunnel.status.forwarderEndpoint =
    vipEndpoint e.tunnel vip →
      EndpointUpdated tr e e
  | changed (vip : String) : Vip r tr vip → e.tunnel.status.forwarderEndpoint ≠
    vipEndpoint e.tunnel vip →
      EndpointUpdated tr e { e with
        tunnel.status.forwarderEndpoint := vipEndpoint e.tunnel vip, updated := true }
  | unavailable : VipUnavailable r tr → EndpointUpdated tr e { e with requeueAfter := 2 }

def Unconfirmed (tr : Trace) (pod : Pod) : Prop :=
  pod.status.podIP = "" ∨ (∃ err, Answered tr (.fetchGatewayStatus pod) (.error err)) ∨
    Answered tr (.fetchGatewayStatus pod) (.ok "")

/-- The outcome of `evaluatePodPhase` on a Tunnel whose mapping fields are already set. -/
inductive Evaluated (tr : Trace) (m : Tunnel) (pod : Pod) : Evaluation → Prop where
  | failed : pod.status.phase = .failed →
      Evaluated tr m pod (setFinalPhase ⟨m, false, 0⟩ .failed "Gateway pod failed")
  | succeeded : pod.status.phase = .succeeded →
      Evaluated tr m pod (setFinalPhase ⟨m, false, 0⟩ .terminated "Gateway terminated")
  | starting : pod.status.phase ≠ .failed → pod.status.phase ≠ .succeeded → isPodReady pod = false →
      Evaluated tr m pod (setPhaseMessage ⟨m, false, 0⟩ .provisioning "Gateway pod starting")
  | unconfirmed (n : ℕ) (e : Evaluation) : pod.status.phase ≠ .failed →
      pod.status.phase ≠ .succeeded → isPodReady pod = true → Unconfirmed tr pod →
      EndpointUpdated r tr ⟨m, false, n⟩ e → Evaluated tr m pod e
  | waiting (key : String) (missing : List String) : pod.status.phase ≠ .failed →
      pod.status.phase ≠ .succeeded → isPodReady pod = true → pod.status.podIP ≠ "" → key ≠ "" →
      Answered tr (.fetchGatewayStatus pod) (.ok key) → r.forwarderServer = true →
      Answered tr (.missingAcks m.key.ns m.key.name m.status.mappingRevision) missing →
      missing ≠ [] →
      Evaluated tr m pod { setPhaseMessage (setPublicKey ⟨m, false, 0⟩ key) .provisioning
        "Waiting for forwarder mapping acknowledgement" with requeueAfter := forwarderAckRequeue }
  | confirmed (key : String) (e : Evaluation) : pod.status.phase ≠ .failed →
      pod.status.phase ≠ .succeeded → isPodReady pod = true → pod.status.podIP ≠ "" → key ≠ "" →
      Answered tr (.fetchGatewayStatus pod) (.ok key) →
      (r.forwarderServer = true →
        Answered tr (.missingAcks m.key.ns m.key.name m.status.mappingRevision) []) →
      EndpointUpdated r tr
        (setPhaseMessage (setPublicKey ⟨m, false, 0⟩ key) .ready "Gateway ready") e →
      Evaluated tr m pod e

/-- `m` is the Tunnel with its mapping fields set, before the phase is decided. -/
structure Mapped (tr : Trace) (t₀ base : Tunnel) (pod : Pod) (allocated changed : Bool)
    (m : Tunnel) : Prop where
  active : Active req tr t₀ base
  hasPod : HasPod r tr base pod
  hasPolicy : HasPolicy tr base
  hasPort : ∃ t, HasPort r tr base t allocated ∧ changed = mappingChanged base t pod allocated ∧
    m = mapped base t pod changed

/-- Everything known when the new status has been computed. -/
structure Computed (tr : Trace) (t₀ base : Tunnel) (pod : Pod) (allocated changed : Bool)
    (m : Tunnel) (e : Evaluation) : Prop extends Mapped r req tr t₀ base pod allocated changed m
    where
  evaluated : Evaluated r tr m pod e

/-- `t` is the Tunnel after the status patch, if there was anything to patch. -/
def Persisted (tr : Trace) (base : Tunnel) (changed : Bool) (e : Evaluation) (t : Tunnel) : Prop :=
  ((changed || e.updated) = true ∧ Answered tr (.patchStatus e.tunnel base) (.ok t)) ∨
    ((changed || e.updated) = false ∧ t = e.tunnel)

/-- What `notifyTunnelUpdate` requires of the Tunnel before it publishes. -/
structure Notifies (t : Tunnel) (u : TunnelUpdate) : Prop where
  server : r.forwarderServer = true
  port : 0 < t.status.forwarderPort
  mapping : u.tunnel = some (notifiedMapping t)
  served : u.type ≠ .deleted → t.status.gatewayPodIP ≠ "" ∧ t.status.gatewayPublicKey ≠ ""

/-- The condition under which the calls made so far let each operation follow. -/
def Next (tr : Trace) : Op → Prop
  | .getTunnel k => k = req ∧ tr = []
  | .updateTunnel t =>
      (∃ t₀, Answered tr (.getTunnel req) (.ok t₀) ∧ t₀.deletionTimestamp = false ∧
        t₀.status.phase ≠ .terminated ∧ validateTunnelTarget t₀.spec.target = .ok () ∧
        finalizerName ∉ t₀.finalizers ∧ t = addFinalizer t₀) ∨
      ∃ t₀, Retiring req tr t₀ ∧ finalizerName ∈ t₀.finalizers ∧ GatewayDeleted tr t₀.key ∧
        t = removeFinalizer t₀
  | .patchStatus t base => ∃ t₀ pod allocated changed m e,
      Computed r req tr t₀ base pod allocated changed m e ∧ (changed || e.updated) = true ∧
      t = e.tunnel
  | .deleteTunnel k => ∃ t₀ t, Dropped req tr t₀ t ∧ GatewayDeleted tr t₀.key ∧
      t₀.deletionTimestamp = false ∧ k = t.key
  | .getPod k => ∃ t₀ base, Active req tr t₀ base ∧ k = gatewayResourceKey base.key
  | .createPod pod => ∃ t₀ base, Active req tr t₀ base ∧ pod = gatewayPod r base ∧
      Answered tr (.getPod (gatewayResourceKey base.key)) (.error .notFound)
  | .deletePod k => ∃ t₀, Retiring req tr t₀ ∧ k = gatewayResourceKey t₀.key
  | .getNetworkPolicy k => ∃ t₀ base, Active req tr t₀ base ∧ k = gatewayResourceKey base.key
  | .createNetworkPolicy p => ∃ t₀ base, Active req tr t₀ base ∧ p = networkPolicy base
  | .updateNetworkPolicy p => ∃ t₀ base existing, Active req tr t₀ base ∧
      Answered tr (.getNetworkPolicy (gatewayResourceKey base.key)) (.ok existing) ∧
      p = mutatePolicy base existing
  | .deleteNetworkPolicy k => ∃ t₀, Retiring req tr t₀ ∧ k = gatewayResourceKey t₀.key
  | .getService k => k = r.forwarderServiceKey
  | .fetchGatewayStatus pod => ∃ t₀ base, Active req tr t₀ base ∧ HasPod r tr base pod ∧
      pod.status.podIP ≠ ""
  | .allocate k => ∃ t₀ base pod, Active req tr t₀ base ∧ HasPod r tr base pod ∧
      base.status.forwarderPort = 0 ∧ r.portAllocator = true ∧ k = tunnelKey base.key
  | .release k => ∃ t₀ t, Dropped req tr t₀ t ∧ r.portAllocator = true ∧ k = tunnelKey t.key
  | .portAllocationsActiveInc => ∃ t₀ base p, Active req tr t₀ base ∧
      base.status.forwarderPort = 0 ∧ r.portAllocator = true ∧
      Answered tr (.allocate (tunnelKey base.key)) (.ok p)
  | .portAllocationsActiveDec => ∃ t₀ t, Dropped req tr t₀ t ∧ r.portAllocator = true ∧
      Answered tr (.release (tunnelKey t.key)) ()
  | .missingAcks ns name revision => ∃ t₀ base pod allocated changed m,
      Mapped r req tr t₀ base pod allocated changed m ∧ ns = m.key.ns ∧ name = m.key.name ∧
      revision = m.status.mappingRevision
  | .notifyUpdate u =>
      (∃ t₀ t, Dropped req tr t₀ t ∧ GatewayDeleted tr t₀.key ∧
        (finalizerName ∈ t₀.finalizers ∨ t₀.deletionTimestamp = false) ∧ u.type = .deleted ∧
        Notifies r t u ∧ (r.portAllocator = true → Answered tr (.release (tunnelKey t.key)) ())) ∨
      ∃ t₀ base pod allocated changed m e t, Computed r req tr t₀ base pod allocated changed m e ∧
        Persisted tr base changed e t ∧ Notifies r t u ∧
        ((changed = true ∧ u.type = if allocated then .added else .modified) ∨
          (u.type = .modified ∧ t.status.phase ≠ .ready ∧ 0 < t.status.mappingRevision))

/-- How a reconciliation ends: without a Tunnel, with a retiring one, or with an active one
whose status was computed and persisted unless an error is returned. -/
def Returns (x : Except String Result) (tr : Trace) : Prop :=
  (∃ e, Answered tr (.getTunnel req) (.error e) ∧ (e = .notFound ∨ ∃ m, x = .error m)) ∨
    (∃ t₀, Retiring req tr t₀) ∨
    ∃ t₀, Answered tr (.getTunnel req) (.ok t₀) ∧ t₀.deletionTimestamp = false ∧
      t₀.status.phase ≠ .terminated ∧ ((∃ e, x = .error e) ∨
        ∃ base pod allocated changed m e t, Computed r req tr t₀ base pod allocated changed m e ∧
          Persisted tr base changed e t ∧ x = .ok ⟨e.requeueAfter⟩)

variable {r req} {tr tr' : Trace}

theorem Active.mono (h : tr ⊆ tr') {t₀ base : Tunnel} (ha : Active req tr t₀ base) :
    Active req tr' t₀ base :=
  { ha with
    read := h ha.read
    owned := ha.owned.imp_right fun ho => ⟨ho.1, h ho.2⟩ }

theorem Retiring.mono (h : tr ⊆ tr') {t₀ : Tunnel} (hr : Retiring req tr t₀) :
    Retiring req tr' t₀ :=
  { hr with read := h hr.read }

theorem GatewayDeleted.mono (h : tr ⊆ tr') {key : NamespacedName} :
    GatewayDeleted tr key → GatewayDeleted tr' key := by
  rintro ⟨⟨a, ha, hga⟩, b, hb, hgb⟩
  exact ⟨⟨a, h ha, hga⟩, b, h hb, hgb⟩

theorem Dropped.mono (h : tr ⊆ tr') {t₀ t : Tunnel} (hd : Dropped req tr t₀ t) :
    Dropped req tr' t₀ t :=
  ⟨hd.retiring.mono h, hd.dropped.imp_right fun ho => ⟨ho.1, ho.2.1.mono h, h ho.2.2⟩⟩

theorem HasPod.mono (h : tr ⊆ tr') {base : Tunnel} {pod : Pod} (hp : HasPod r tr base pod) :
    HasPod r tr' base pod :=
  hp.imp (fun ha => h ha) fun ha => ⟨h ha.1, h ha.2⟩

theorem HasPolicy.mono (h : tr ⊆ tr') {base : Tunnel} (hp : HasPolicy tr base) :
    HasPolicy tr' base :=
  hp.imp (fun ha => h ha) fun ⟨x, hx, hm⟩ => ⟨x, h hx, hm.imp_right fun ha => h ha⟩

theorem HasPort.mono (h : tr ⊆ tr') {base t : Tunnel} {allocated : Bool}
    (hp : HasPort r tr base t allocated) : HasPort r tr' base t allocated :=
  hp.imp_right fun ⟨h₁, h₂, h₃, p, hp, ht⟩ => ⟨h₁, h₂, h₃, p, h hp, ht⟩

theorem Vip.mono (h : tr ⊆ tr') {vip : String} (hv : Vip r tr vip) : Vip r tr' vip :=
  ⟨hv.1, hv.2.imp_right fun ⟨h₁, svc, hs, hf⟩ => ⟨h₁, svc, h hs, hf⟩⟩

theorem EndpointUpdated.mono (h : tr ⊆ tr') {e e' : Evaluation} (he : EndpointUpdated r tr e e') :
    EndpointUpdated r tr' e e' := by
  cases he with
  | unchanged vip hv hne => exact .unchanged vip (hv.mono h) hne
  | changed vip hv hne => exact .changed vip (hv.mono h) hne
  | unavailable hu =>
      refine .unavailable ⟨hu.1, hu.2.imp_right ?_⟩
      exact Or.imp (fun ⟨err, ha⟩ => ⟨err, h ha⟩) fun ⟨svc, ha, hf⟩ => ⟨svc, h ha, hf⟩

theorem Unconfirmed.mono (h : tr ⊆ tr') {pod : Pod} (hu : Unconfirmed tr pod) :
    Unconfirmed tr' pod :=
  hu.imp_right (Or.imp (fun ⟨err, ha⟩ => ⟨err, h ha⟩) fun ha => h ha)

theorem Evaluated.mono (h : tr ⊆ tr') {m : Tunnel} {pod : Pod} {e : Evaluation}
    (he : Evaluated r tr m pod e) : Evaluated r tr' m pod e := by
  cases he with
  | failed hp => exact .failed hp
  | succeeded hp => exact .succeeded hp
  | starting h₁ h₂ h₃ => exact .starting h₁ h₂ h₃
  | unconfirmed n e h₁ h₂ h₃ hu hend => exact .unconfirmed n e h₁ h₂ h₃ (hu.mono h) (hend.mono h)
  | waiting key missing h₁ h₂ h₃ hip hkey hf hs hm hne =>
      exact .waiting key missing h₁ h₂ h₃ hip hkey (h hf) hs (h hm) hne
  | confirmed key e h₁ h₂ h₃ hip hkey hf hm hend =>
      exact .confirmed key e h₁ h₂ h₃ hip hkey (h hf) (fun hs => h (hm hs)) (hend.mono h)

theorem Mapped.mono (h : tr ⊆ tr') {t₀ base : Tunnel} {pod : Pod} {allocated changed : Bool}
    {m : Tunnel} (hm : Mapped r req tr t₀ base pod allocated changed m) :
    Mapped r req tr' t₀ base pod allocated changed m :=
  ⟨hm.active.mono h, hm.hasPod.mono h, hm.hasPolicy.mono h,
    hm.hasPort.imp fun _ ht => ⟨ht.1.mono h, ht.2⟩⟩

theorem Computed.mono (h : tr ⊆ tr') {t₀ base : Tunnel} {pod : Pod} {allocated changed : Bool}
    {m : Tunnel} {e : Evaluation} (hc : Computed r req tr t₀ base pod allocated changed m e) :
    Computed r req tr' t₀ base pod allocated changed m e :=
  ⟨hc.toMapped.mono h, hc.evaluated.mono h⟩

theorem Persisted.mono (h : tr ⊆ tr') {base t : Tunnel} {changed : Bool} {e : Evaluation}
    (hp : Persisted tr base changed e t) : Persisted tr' base changed e t :=
  hp.imp_left fun ⟨h₁, h₂⟩ => ⟨h₁, h h₂⟩

end TunnelReconciler
end TunnelOperator
