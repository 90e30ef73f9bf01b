import TunnelOperator.Program
import TunnelOperator.Mapping

/-!
# The Tunnel reconciler

`TunnelReconciler.Reconcile` as an interaction program. Its operations are the calls
that leave the function: the Kubernetes API, the gateway's status endpoint, the port
allocator, the allocation gauge and the forwarder server. Everything between two
calls is computed here as the source computes it; log lines and the write-only
counters `reconciliationsTotal` and `tunnelsActive` are left out.
-/

namespace TunnelOperator
open Interaction GoText

inductive Op where
  | getTunnel (key : NamespacedName)
  | updateTunnel (tunnel : Tunnel)
  | patchStatus (tunnel base : Tunnel)
  | deleteTunnel (key : NamespacedName)
  | getPod (key : NamespacedName)
  | createPod (pod : Pod)
  | deletePod (key : NamespacedName)
  | getNetworkPolicy (key : NamespacedName)
  | createNetworkPolicy (policy : NetworkPolicy)
  | updateNetworkPolicy (policy : NetworkPolicy)
  | deleteNetworkPolicy (key : NamespacedName)
  | getService (key : ObjectKey)
  | fetchGatewayStatus (pod : Pod)
  | allocate (key : String)
  | release (key : String)
  | portAllocationsActiveInc
  | portAllocationsActiveDec
  | missingAcks (ns name : String) (revision : Int)
  | notifyUpdate (update : TunnelUpdate)

abbrev Op.Ans : Op → Type
  | .getTunnel _ => Except ApiError Tunnel
  | .updateTunnel _ => Except ApiError Tunnel
  | .patchStatus _ _ => Except ApiError Tunnel
  | .deleteTunnel _ => Except ApiError Unit
  | .getPod _ => Except ApiError Pod
  | .createPod _ => Except ApiError Pod
  | .deletePod _ => Except ApiError Unit
  | .getNetworkPolicy _ => Except ApiError NetworkPolicy
  | .createNetworkPolicy _ => Except ApiError Unit
  | .updateNetworkPolicy _ => Except ApiError Unit
  | .deleteNetworkPolicy _ => Except ApiError Unit
  | .getService _ => Except ApiError Service
  | .fetchGatewayStatus _ => Except String String
  | .allocate _ => Except String Int
  | .release _ => Unit
  | .portAllocationsActiveInc => Unit
  | .portAllocationsActiveDec => Unit
  | .missingAcks _ _ _ => List String
  | .notifyUpdate _ => Unit

abbrev Prog (α : Type) := Program Op.Ans α

def perform (op : Op) : Prog op.Ans := Program.perform op

/-- `ctrl.Result`, with `RequeueAfter` in seconds. -/
structure Result where
  requeueAfter : ℕ := 0
  deriving DecidableEq

def forwarderAckRequeue : ℕ := 2

/-- `if err != nil { return …, err }`. -/
def orReturn {α β : Type} (p : Prog (Except String α)) (f : α → Prog (Except String β)) :
    Prog (Except String β) :=
  p.bind fun
    | .error e => .pure (.error e)
    | .ok a => f a

/-- `fmt.Errorf(context + "%w", err)` on failure. -/
def attempt {α : Type} (context : String) (p : Prog (Except ApiError α)) : Prog (Except String α) :=
  p.bind fun
    | .error e => .pure (.error (context ++ e.message))
    | .ok a => .pure (.ok a)

namespace TunnelReconciler

variable (r : TunnelReconciler)

def notifiedMapping (tunnel : Tunnel) : TunnelMapping where
  tunnelName := tunnel.key.name
  tunnelNamespace := tunnel.key.ns
  forwarderPort := tunnel.status.forwarderPort
  gatewayAddress := joinHostPort tunnel.status.gatewayPodIP (itoa 51820)
  revision := tunnel.status.mappingRevision
  gatewayPodUid := tunnel.status.gatewayPodUID
  gatewayPodIp := tunnel.status.gatewayPodIP
  issuer := tunnel.uid

def notifyTunnelUpdate (tunnel : Tunnel) (updateType : UpdateType) : Prog Unit :=
  if r.forwarderServer = false ∨ tunnel.status.forwarderPort ≤ 0 then .pure ()
  else if updateType ≠ .deleted ∧
      (tunnel.status.gatewayPodIP = "" ∨ tunnel.status.gatewayPublicKey = "") then .pure ()
  else perform (.notifyUpdate ⟨updateType, some (notifiedMapping tunnel)⟩)

def releaseForwarderPort (tunnel : Tunnel) : Prog Unit :=
  if r.portAllocator = false then .pure ()
  else do
    perform (.release (tunnelKey tunnel.key))
    perform .portAllocationsActiveDec

/-- Deleting an object that is already gone counts as deleting it. -/
def deleteObject (what : String) (p : Prog (Except ApiError Unit)) : Prog (Except String Unit) :=
  p.bind fun
    | .ok () => .pure (.ok ())
    | .error .notFound => .pure (.ok ())
    | .error e => .pure (.error ("deleting " ++ what ++ ": " ++ e.message))

def deleteGatewayResources (tunnel : Tunnel) : Prog (Except String Unit) :=
  orReturn (deleteObject "*v1.Pod" (perform (.deletePod (gatewayResourceKey tunnel.key)))) fun _ =>
    deleteObject "*v1.NetworkPolicy"
      (perform (.deleteNetworkPolicy (gatewayResourceKey tunnel.key)))

def removeFinalizer (tunnel : Tunnel) : Tunnel :=
  { tunnel with finalizers := tunnel.finalizers.filter (· ≠ finalizerName) }

def addFinalizer (tunnel : Tunnel) : Tunnel :=
  { tunnel with finalizers := tunnel.finalizers ++ [finalizerName] }

/-- After a successful `Update` the variable holds the object the API server returned. -/
def handleDeletion (tunnel : Tunnel) : Prog (Except String Unit) :=
  if finalizerName ∉ tunnel.finalizers then do
    r.releaseForwarderPort tunnel
    pure (.ok ())
  else
    orReturn (deleteGatewayResources tunnel) fun _ =>
    orReturn (attempt "removing finalizer: " (perform (.updateTunnel (removeFinalizer tunnel))))
      fun tunnel => do
        r.releaseForwarderPort tunnel
        r.notifyTunnelUpdate tunnel .deleted
        pure (.ok ())

def dropFinalizer (tunnel : Tunnel) : Prog (Except String Tunnel) :=
  if finalizerName ∈ tunnel.finalizers then
    attempt "removing finalizer: " (perform (.updateTunnel (removeFinalizer tunnel)))
  else pure (.ok tunnel)

def handleTerminated (tunnel : Tunnel) : Prog (Except String Unit) :=
  orReturn (deleteGatewayResources tunnel) fun _ =>
  orReturn (dropFinalizer tunnel) fun tunnel => do
    r.releaseForwarderPort tunnel
    r.notifyTunnelUpdate tunnel .deleted
    match ← perform (.deleteTunnel tunnel.key) with
    | .ok () => pure (.ok ())
    | .error e => pure e.ignoreNotFound

def ensureFinalizer (tunnel : Tunnel) : Prog (Except String Tunnel) :=
  if finalizerName ∈ tunnel.finalizers then pure (.ok tunnel)
  else attempt "" (perform (.updateTunnel (addFinalizer tunnel)))

def ensureGatewayPod (tunnel : Tunnel) : Prog (Except String Pod) := do
  match ← perform (.getPod (gatewayResourceKey tunnel.key)) with
  | .ok pod => pure (.ok pod)
  | .error .notFound =>
      attempt "creating gateway pod: " (perform (.createPod (gatewayPod r tunnel)))
  | .error e => pure (.error ("getting gateway pod: " ++ e.message))

/-- The mutation passed to `controllerutil.CreateOrUpdate`. -/
def mutatePolicy (tunnel : Tunnel) (existing : NetworkPolicy) : NetworkPolicy :=
  { existing with
    labels := (networkPolicy tunnel).labels
    spec := (networkPolicy tunnel).spec
    owner := (networkPolicy tunnel).owner }

def ensureNetworkPolicy (tunnel : Tunnel) : Prog (Except String Unit) := do
  match ← perform (.getNetworkPolicy (gatewayResourceKey tunnel.key)) with
  | .error .notFound =>
      attempt "reconciling networkpolicy: " (perform (.createNetworkPolicy (networkPolicy tunnel)))
  | .error e => pure (.error ("reconciling networkpolicy: " ++ e.message))
  | .ok existing =>
      if mutatePolicy tunnel existing = existing then pure (.ok ())
      else
        attempt "reconciling networkpolicy: "
          (perform (.updateNetworkPolicy (mutatePolicy tunnel existing)))

def resolveForwarderVIP : Prog (Except String String) :=
  let serviceName := r.forwarderServiceKey.ns ++ "/" ++ r.forwarderServiceKey.name
  if r.forwarderVIP ≠ "" then pure (.ok r.forwarderVIP)
  else if r.forwarderServiceKey.name = "" then pure (.error "forwarder service not configured")
  else do
    match ← perform (.getService r.forwarderServiceKey) with
    | .error e => pure (.error ("getting forwarder service " ++ serviceName ++ ": " ++ e.message))
    | .ok svc =>
        match svc.ingressIPs.find? (· ≠ "") with
        | some ip => pure (.ok ip)
        | none => pure (.error ("forwarder service " ++ serviceName ++ " has no load balancer IP"))

/-- What `evaluatePodPhase` and `handleReadyPod` leave behind: the Tunnel with its new
status, whether they changed it, and the requeue delay in seconds. -/
structure Evaluation where
  tunnel : Tunnel
  updated : Bool
  requeueAfter : ℕ
  deriving DecidableEq

/-- The last part of `handleReadyPod`, reached unless acknowledgements are missing. -/
def updateForwarderEndpoint (e : Evaluation) : Prog Evaluation := do
  match ← r.resolveForwarderVIP with
  | .ok vip =>
      let endpoint := joinHostPort vip (itoa e.tunnel.status.forwarderPort)
      if vip ≠ "" ∧ e.tunnel.status.forwarderEndpoint ≠ endpoint then
        pure { e with tunnel.status.forwarderEndpoint := endpoint, updated := true }
      else pure e
  | .error _ => pure { e with requeueAfter := 2 }

/-- Both phase and message are compared before they are written. -/
def setPhaseMessage (e : Evaluation) (phase : TunnelPhase) (message : String) : Evaluation :=
  if e.tunnel.status.phase ≠ phase ∨ e.tunnel.status.message ≠ message then
    { e with tunnel.status.phase := phase, tunnel.status.message := message, updated := true }
  else e

/-- Only the phase is compared, as for Pods that have failed or succeeded. -/
def setFinalPhase (e : Evaluation) (phase : TunnelPhase) (message : String) : Evaluation :=
  if e.tunnel.status.phase ≠ phase then
    { e with tunnel.status.phase := phase, tunnel.status.message := message, updated := true }
  else e

def setPublicKey (e : Evaluation) (pubKey : String) : Evaluation :=
  if e.tunnel.status.gatewayPublicKey ≠ pubKey then
    { e with tunnel.status.gatewayPublicKey := pubKey, updated := true }
  else e

def missingAcks (tunnel : Tunnel) : Prog (List String) :=
  if r.forwarderServer then
    perform (.missingAcks tunnel.key.ns tunnel.key.name tunnel.status.mappingRevision)
  else pure []

def handleReadyPod (tunnel : Tunnel) (pod : Pod) : Prog Evaluation :=
  let e : Evaluation := ⟨tunnel, false, 0⟩
  if pod.status.podIP = "" then r.updateForwarderEndpoint e
  else do
    match ← perform (.fetchGatewayStatus pod) with
    | .error _ => r.updateForwarderEndpoint { e with requeueAfter := 2 }
    | .ok pubKey =>
        if pubKey = "" then r.updateForwarderEndpoint e
        else
          let e := setPublicKey e pubKey
          let missing ← r.missingAcks e.tunnel
          if missing ≠ [] then
            pure { setPhaseMessage e .provisioning
              "Waiting for forwarder mapping acknowledgement" with
              requeueAfter := forwarderAckRequeue }
          else r.updateForwarderEndpoint (setPhaseMessage e .ready "Gateway ready")

def evaluatePodPhase (tunnel : Tunnel) (pod : Pod) : Prog Evaluation :=
  let e : Evaluation := ⟨tunnel, false, 0⟩
  if pod.status.phase = .failed then pure (setFinalPhase e .failed "Gateway pod failed")
  else if pod.status.phase = .succeeded then
    pure (setFinalPhase e .terminated "Gateway terminated")
  else if isPodReady pod then r.handleReadyPod tunnel pod
  else pure (setPhaseMessage e .provisioning "Gateway pod starting")

/-- Increment of a Go `int64`. -/
def int64Succ (n : Int) : Int := (n + 1).bmod (2 ^ 64)

/-- Gives the Tunnel a port if it has none. The flag says whether it did. -/
def assignPort (tunnel : Tunnel) : Prog (Except String (Tunnel × Bool)) :=
  if tunnel.status.forwarderPort = 0 ∧ r.portAllocator then do
    match ← perform (.allocate (tunnelKey tunnel.key)) with
    | .error e => pure (.error ("allocating forwarder port: " ++ e))
    | .ok port =>
        perform .portAllocationsActiveInc
        pure (.ok ({ tunnel with status.forwarderPort := port }, true))
  else pure (.ok (tunnel, false))

def podDiffers (status : TunnelStatus) (resourceName : String) (pod : Pod) : Bool :=
  status.gatewayPodName ≠ resourceName || status.gatewayPodUID ≠ pod.uid ||
    status.gatewayPodIP ≠ pod.status.podIP

def recordPod (status : TunnelStatus) (resourceName : String) (pod : Pod) : TunnelStatus :=
  let status := if status.gatewayPodName ≠ resourceName then
    { status with gatewayPodName := resourceName } else status
  -- a replacement gateway has to publish its own key
  let status := if status.gatewayPodUID ≠ pod.uid then
    { status with gatewayPodUID := pod.uid, gatewayPublicKey := "" } else status
  if status.gatewayPodIP ≠ pod.status.podIP then
    { status with gatewayPodIP := pod.status.podIP } else status

def bumpRevision (status : TunnelStatus) (mappingChanged : Bool) : TunnelStatus :=
  if mappingChanged then { status with mappingRevision := int64Succ status.mappingRevision }
  else status

/-- Republishing to forwarders that may have missed the mapping. -/
def republish (tunnel : Tunnel) : Prog Unit :=
  if r.forwarderServer ∧ tunnel.status.gatewayPodIP ≠ "" ∧ tunnel.status.gatewayPublicKey ≠ "" ∧
      tunnel.status.phase ≠ .ready ∧ 0 < tunnel.status.mappingRevision then
    r.notifyTunnelUpdate tunnel .modified
  else pure ()

def persistStatus (e : Evaluation) (base : Tunnel) (mappingChanged : Bool)
    (updateType : UpdateType) :
    Prog (Except String Tunnel) :=
  if mappingChanged || e.updated then
    orReturn (attempt "updating tunnel status: " (perform (.patchStatus e.tunnel base)))
      fun tunnel => do
      if mappingChanged then r.notifyTunnelUpdate tunnel updateType
      pure (.ok tunnel)
  else pure (.ok e.tunnel)

def reconcileStatus (base : Tunnel) (pod : Pod) : Prog (Except String Result) :=
  orReturn (r.assignPort base) fun (tunnel, allocated) => do
    let resourceName := gatewayResourceName base.key.name
    let mappingChanged := allocated || podDiffers tunnel.status resourceName pod
    let updateType := if allocated then UpdateType.added else .modified
    let status := bumpRevision (recordPod tunnel.status resourceName pod) mappingChanged
    let e ← r.evaluatePodPhase { tunnel with status := status } pod
    orReturn (r.persistStatus e base mappingChanged updateType) fun tunnel => do
      r.republish tunnel
      pure (.ok ⟨e.requeueAfter⟩)

def reconcileGateway (tunnel : Tunnel) : Prog (Except String Result) :=
  orReturn (r.ensureGatewayPod tunnel) fun pod =>
  orReturn (ensureNetworkPolicy tunnel) fun _ =>
  r.reconcileStatus tunnel pod

def done (p : Prog (Except String Unit)) : Prog (Except String Result) :=
  orReturn p fun _ => .pure (.ok {})

def reconcile (req : NamespacedName) : Prog (Except String Result) := do
  match ← perform (.getTunnel req) with
  | .error e => done (pure e.ignoreNotFound)
  | .ok tunnel =>
      if tunnel.deletionTimestamp then done (r.handleDeletion tunnel)
      else if tunnel.status.phase = .terminated then done (r.handleTerminated tunnel)
      else
        match validateTunnelTarget tunnel.spec.target with
        | .error e => pure (.error ("validating tunnel target: " ++ e))
        | .ok () => orReturn (ensureFinalizer tunnel) r.reconcileGateway

end TunnelReconciler
end TunnelOperator
