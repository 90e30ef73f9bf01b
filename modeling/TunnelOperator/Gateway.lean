import TunnelOperator.Api

/-!
# Gateway resources

The pure parts of the controller that build the gateway Pod and its NetworkPolicy
from a Tunnel, and the validation of its target.
-/

namespace TunnelOperator
open GoText

def finalizerName : String := "tunnels.nais.io/cleanup"
def gatewayStatusPort : Int := 8080
def gatewayPort : Int := 51820

/-- The fields of the reconciler that do not change while it runs: whether it has a port
allocator and a forwarder server, where to find the forwarder's address, and the process
environment variables `GATEWAY_IMAGE` and `LOG_LEVEL` it reads. -/
structure TunnelReconciler where
  portAllocator : Bool
  forwarderServer : Bool
  forwarderServiceKey : ObjectKey
  forwarderVIP : String
  gatewayImageEnv : String
  logLevelEnv : String

def gatewayResourceName (tunnelName : String) : String := "tunnel-gateway-" ++ tunnelName

def gatewayResourceKey (k : NamespacedName) : NamespacedName :=
  ⟨k.ns, gatewayResourceName k.name, k.slashFree⟩

def gatewayLabels (tunnelName : String) : List (String × String) :=
  [("app.kubernetes.io/managed-by", "tunnel-operator"),
   ("app.kubernetes.io/component", "tunnel-gateway"),
   ("tunnels.nais.io/tunnel", tunnelName)]

def validateTunnelTarget (target : TunnelTarget) : Except String Unit :=
  let hasResolvedIP : Bool := trimSpace target.resolvedIP ≠ ""
  let hasPodSelector := target.podSelector.isSome
  if hasResolvedIP = hasPodSelector then
    .error "exactly one of resolvedIP or podSelector must be set"
  else
    match target.podSelector with
    | some selector =>
        if selector.matchLabels = [] ∧ selector.matchExpressions = [] then
          .error "podSelector must not be empty"
        else .ok ()
    | none => .ok ()

def gatewayEnv (r : TunnelReconciler) (tunnel : Tunnel) : List EnvVar :=
  let env : List EnvVar :=
    [⟨"TUNNEL_PEER_PUBLIC_KEY", tunnel.spec.clientPublicKey⟩,
     ⟨"TUNNEL_TARGET_HOST", tunnel.spec.target.host⟩,
     ⟨"TUNNEL_TARGET_PORT", itoa tunnel.spec.target.port⟩,
     ⟨"TUNNEL_NAME", tunnel.key.name⟩,
     ⟨"TUNNEL_NAMESPACE", tunnel.key.ns⟩,
     ⟨"LOG_LEVEL", r.logLevelEnv⟩]
  if tunnel.spec.target.resolvedIP ≠ "" then
    env ++ [⟨"TUNNEL_TARGET_IP", tunnel.spec.target.resolvedIP⟩]
  else env

def networkPolicyPodSelector (selector : TunnelTargetPodSelector) : LabelSelector :=
  ⟨selector.matchLabels, selector.matchExpressions⟩

def targetEgressRule (target : TunnelTarget) : NetworkPolicyEgressRule :=
  let peer : NetworkPolicyPeer :=
    match target.podSelector with
    | some selector => { podSelector := some (networkPolicyPodSelector selector) }
    | none => { ipBlock := some ⟨target.resolvedIP ++ "/32"⟩ }
  ⟨[peer], [⟨.tcp, some (.int target.port)⟩]⟩

/-- The NetworkPolicy specification that `ensureNetworkPolicy` writes. -/
def networkPolicySpec (tunnel : Tunnel) : NetworkPolicySpec where
  podSelector := ⟨[("tunnels.nais.io/tunnel", tunnel.key.name)], []⟩
  policyTypes := [.ingress, .egress]
  ingress :=
    [⟨[], [⟨.udp, some (.int 51820)⟩, ⟨.tcp, some (.int gatewayStatusPort)⟩]⟩,
     ⟨[{ namespaceSelector := some ⟨[("kubernetes.io/metadata.name", "nais-system")], []⟩
         podSelector := some ⟨[("app.kubernetes.io/name", "alloy")], []⟩ }],
      [⟨.tcp, some (.string "metrics")⟩]⟩]
  egress := [targetEgressRule tunnel.spec.target, ⟨[], [⟨.udp, none⟩]⟩]

def networkPolicy (tunnel : Tunnel) : NetworkPolicy where
  key := gatewayResourceKey tunnel.key
  labels := gatewayLabels tunnel.key.name
  spec := networkPolicySpec tunnel
  owner := tunnel.uid

/-- The Pod that `ensureGatewayPod` submits. The API server assigns its UID. -/
def gatewayPod (r : TunnelReconciler) (tunnel : Tunnel) : Pod where
  key := gatewayResourceKey tunnel.key
  uid := ""
  labels := gatewayLabels tunnel.key.name
  image := if r.gatewayImageEnv = "" then
      "europe-north1-docker.pkg.dev/nais-io/nais/images/tunnel-operator-gateway:latest"
    else r.gatewayImageEnv
  activeDeadlineSeconds := tunnel.spec.activeDeadlineSeconds.getD 3600
  env := gatewayEnv r tunnel
  owner := tunnel.uid
  status := {}

end TunnelOperator
