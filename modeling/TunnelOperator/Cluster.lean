import TunnelOperator.Reconcile
import TunnelOperator.Allocator

/-!
# The cluster a reconciler acts on

The meaning of the reconciler's operations. Reads return the latest committed object.
`Update` replaces metadata and specification under the object's resource version,
`Status().Patch` with `client.MergeFrom` overwrites the status fields in which the new
object differs from the one that was read, and a deletion waits for the finalizers.
Any API call can fail, and a failed write may have taken effect. `Choice` holds
everything the operations leave to their environment.

`published` and `fetched` are records for the proofs: the updates handed to the forwarder
server in their order, and the UID and key of every successful gateway status fetch.
-/

namespace TunnelOperator
open Interaction

structure World where
  tunnels : Table NamespacedName Tunnel
  pods : Table NamespacedName Pod
  policies : Table NamespacedName NetworkPolicy
  nextUid : ℕ
  version : ℕ
  allocator : PortAllocator
  portAllocationsActive : Int
  published : List TunnelUpdate
  fetched : List (String × String)

structure Choice where
  failure : Option String := none
  applied : Bool := false
  start : ℕ := 0
  podUID : String := ""
  podLingers : Bool := false
  gatewayStatus : Except String String := .error "connection refused"
  service : Except ApiError Service := .error .notFound
  missing : List String := []

namespace World

def initial (allocator : PortAllocator) : World where
  tunnels := ∅
  pods := ∅
  policies := ∅
  nextUid := 0
  version := 0
  allocator := allocator
  portAllocationsActive := 0
  published := []
  fetched := []

def getResult {α : Type} (c : Choice) (found : Option α) : Except ApiError α :=
  match c.failure, found with
  | some m, _ => .error (.other m)
  | none, some a => .ok a
  | none, none => .error .notFound

/-- The outcome of a write, which a failure hides without necessarily preventing it. -/
def writeResult {α : Type} (c : Choice) (w : World) (result : Except ApiError α × World) :
    Except ApiError α × World :=
  match c.failure with
  | none => result
  | some m => (.error (.other m), if c.applied then result.2 else w)

/-- Commits a version of a Tunnel. One that is being deleted goes with its last finalizer. -/
def storeTunnel (t : Tunnel) (w : World) : World :=
  if t.deletionTimestamp ∧ t.finalizers = [] then
    { w with tunnels := w.tunnels.erase t.key, version := w.version + 1 }
  else
    { w with
      tunnels := w.tunnels.insert t.key { t with resourceVersion := w.version + 1 }
      version := w.version + 1 }

/-- Commits `change t` for the stored Tunnel `t`, answering the committed object. -/
def writeTunnel (key : NamespacedName) (change : Tunnel → Except ApiError Tunnel) (w : World) :
    Except ApiError Tunnel × World :=
  match w.tunnels.lookup key with
  | none => (.error .notFound, w)
  | some current =>
      match change current with
      | .error e => (.error e, w)
      | .ok t => (.ok { t with resourceVersion := w.version + 1 }, w.storeTunnel t)

def updateTunnel (tunnel : Tunnel) : World → Except ApiError Tunnel × World :=
  writeTunnel tunnel.key fun current =>
    if current.resourceVersion ≠ tunnel.resourceVersion then .error .conflict
    else .ok { current with finalizers := tunnel.finalizers, spec := tunnel.spec }

def mergeField {α : Type} [DecidableEq α] (base new current : α) : α :=
  if new ≠ base then new else current

/-- The JSON merge patch between `base` and `new`, applied to `current`. -/
def mergeStatus (base new current : TunnelStatus) : TunnelStatus where
  phase := mergeField base.phase new.phase current.phase
  gatewayPublicKey := mergeField base.gatewayPublicKey new.gatewayPublicKey current.gatewayPublicKey
  forwarderPort := mergeField base.forwarderPort new.forwarderPort current.forwarderPort
  forwarderEndpoint :=
    mergeField base.forwarderEndpoint new.forwarderEndpoint current.forwarderEndpoint
  gatewayPodName := mergeField base.gatewayPodName new.gatewayPodName current.gatewayPodName
  gatewayPodUID := mergeField base.gatewayPodUID new.gatewayPodUID current.gatewayPodUID
  gatewayPodIP := mergeField base.gatewayPodIP new.gatewayPodIP current.gatewayPodIP
  mappingRevision := mergeField base.mappingRevision new.mappingRevision current.mappingRevision
  message := mergeField base.message new.message current.message

def patchStatus (tunnel base : Tunnel) : World → Except ApiError Tunnel × World :=
  writeTunnel tunnel.key fun current =>
    .ok { current with status := mergeStatus base.status tunnel.status current.status }

def deleteTunnel (key : NamespacedName) (w : World) : Except ApiError Unit × World :=
  let result := w.writeTunnel key fun current => .ok { current with deletionTimestamp := true }
  (result.1.map fun _ => (), result.2)

def createPod (pod : Pod) (uid : String) (w : World) : Except ApiError Pod × World :=
  match w.pods.lookup pod.key with
  | some _ => (.error .alreadyExists, w)
  | none =>
      (.ok { pod with uid := uid },
        { w with pods := w.pods.insert pod.key { pod with uid := uid } })

/-- A deleted Pod may linger until its grace period has passed. -/
def deletePod (key : NamespacedName) (lingers : Bool) (w : World) : Except ApiError Unit × World :=
  match w.pods.lookup key with
  | none => (.error .notFound, w)
  | some _ => (.ok (), if lingers then w else { w with pods := w.pods.erase key })

def createNetworkPolicy (policy : NetworkPolicy) (w : World) : Except ApiError Unit × World :=
  match w.policies.lookup policy.key with
  | some _ => (.error .alreadyExists, w)
  | none => (.ok (), { w with policies := w.policies.insert policy.key policy })

def updateNetworkPolicy (policy : NetworkPolicy) (w : World) : Except ApiError Unit × World :=
  match w.policies.lookup policy.key with
  | none => (.error .notFound, w)
  | some _ => (.ok (), { w with policies := w.policies.insert policy.key policy })

def deleteNetworkPolicy (key : NamespacedName) (w : World) : Except ApiError Unit × World :=
  match w.policies.lookup key with
  | none => (.error .notFound, w)
  | some _ => (.ok (), { w with policies := w.policies.erase key })

def recordFetch (pod : Pod) : Except String String → World → World
  | .ok key, w => { w with fetched := (pod.uid, key) :: w.fetched }
  | .error _, w => w

def exec : (op : Op) → Choice → World → op.Ans × World
  | .getTunnel key, c, w => (getResult c (w.tunnels.lookup key), w)
  | .updateTunnel tunnel, c, w => writeResult c w (w.updateTunnel tunnel)
  | .patchStatus tunnel base, c, w => writeResult c w (w.patchStatus tunnel base)
  | .deleteTunnel key, c, w => writeResult c w (w.deleteTunnel key)
  | .getPod key, c, w => (getResult c (w.pods.lookup key), w)
  | .createPod pod, c, w => writeResult c w (w.createPod pod c.podUID)
  | .deletePod key, c, w => writeResult c w (w.deletePod key c.podLingers)
  | .getNetworkPolicy key, c, w => (getResult c (w.policies.lookup key), w)
  | .createNetworkPolicy policy, c, w => writeResult c w (w.createNetworkPolicy policy)
  | .updateNetworkPolicy policy, c, w => writeResult c w (w.updateNetworkPolicy policy)
  | .deleteNetworkPolicy key, c, w => writeResult c w (w.deleteNetworkPolicy key)
  | .getService _, c, w => (c.service, w)
  | .fetchGatewayStatus pod, c, w => (c.gatewayStatus, recordFetch pod c.gatewayStatus w)
  | .allocate key, c, w =>
      let result := w.allocator.allocate c.start key
      (result.1, { w with allocator := result.2 })
  | .release key, _, w => ((), { w with allocator := w.allocator.release key })
  | .portAllocationsActiveInc, _, w =>
      ((), { w with portAllocationsActive := w.portAllocationsActive + 1 })
  | .portAllocationsActiveDec, _, w =>
      ((), { w with portAllocationsActive := w.portAllocationsActive - 1 })
  | .missingAcks _ _ _, c, w => (c.missing, w)
  | .notifyUpdate update, _, w => ((), { w with published := w.published ++ [update] })

/-- What users, the garbage collector and the kubelet do. Removing the operator's own finalizer is
not among it, and nobody but the operator writes or deletes NetworkPolicies. -/
inductive Outside where
  | createTunnel (key : NamespacedName) (finalizers : List String) (spec : TunnelSpec)
  | deleteTunnel (key : NamespacedName)
  | editSpec (key : NamespacedName) (spec : TunnelSpec)
  | removeFinalizer (key : NamespacedName) (finalizer : String)
  | setPodStatus (key : NamespacedName) (status : PodStatus)
  | removePod (key : NamespacedName)

def createTunnel (key : NamespacedName) (finalizers : List String) (spec : TunnelSpec) (w : World) :
    Option World :=
  match w.tunnels.lookup key with
  | some _ => none
  | none => some { w with
      tunnels := w.tunnels.insert key ⟨key, w.nextUid, w.version + 1, false, finalizers, spec, {}⟩
      nextUid := w.nextUid + 1
      version := w.version + 1 }

def outside : Outside → World → Option World
  | .createTunnel key finalizers spec, w => w.createTunnel key finalizers spec
  | .deleteTunnel key, w => some (w.deleteTunnel key).2
  | .editSpec key spec, w => some (w.writeTunnel key fun t => .ok { t with spec := spec }).2
  | .removeFinalizer key finalizer, w =>
      if finalizer = finalizerName then none
      else some (w.writeTunnel key fun t =>
        .ok { t with finalizers := t.finalizers.filter (· ≠ finalizer) }).2
  | .setPodStatus key status, w =>
      (w.pods.lookup key).map fun pod =>
        { w with pods := w.pods.insert key { pod with status := status } }
  | .removePod key, w => some { w with pods := w.pods.erase key }

end World
end TunnelOperator
