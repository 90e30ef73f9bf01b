import TunnelOperator.TargetEgress

/-!
# What NetworkPolicies admit

The meaning of the NetworkPolicies of a cluster: which Pods a label selector selects, which
connections a rule admits, and that policies only add up. A Pod that no policy selects for a
direction is open in that direction. The policy that the operator writes for a gateway then
admits exactly the connections named here, as long as no other policy selects the gateway.
-/

namespace TunnelOperator
open GoText NetIP

/-- A Pod as NetworkPolicies see it, with the ports it has given a name. -/
structure Workload where
  ns : String
  nsLabels : List (String × String)
  labels : List (String × String)
  ports : List (String × Protocol × Int)

/-- One end of a connection: an address, and the Pod that has it unless it is outside the cluster.
-/
structure Party where
  addr : Addr
  pod : Option Workload

/-- An operator that the API server does not know selects nothing. -/
def LabelSelectorRequirement.Matches (requirement : LabelSelectorRequirement)
    (labels : List (String × String)) : Prop :=
  if requirement.operator = "In" then ∃ v ∈ labels.lookup requirement.key, v ∈ requirement.values
  else if requirement.operator = "NotIn" then
    ∀ v ∈ labels.lookup requirement.key, v ∉ requirement.values
  else if requirement.operator = "Exists" then labels.lookup requirement.key ≠ none
  else if requirement.operator = "DoesNotExist" then labels.lookup requirement.key = none
  else False

def LabelSelector.Matches (selector : LabelSelector) (labels : List (String × String)) : Prop :=
  (∀ l ∈ selector.matchLabels, labels.lookup l.1 = some l.2) ∧
    ∀ requirement ∈ selector.matchExpressions, requirement.Matches labels

/-- Without a selector of namespaces a peer selects in the namespace of its policy. -/
def NetworkPolicyPeer.Selects (peer : NetworkPolicyPeer) (ns : String) (party : Party) : Prop :=
  match peer.ipBlock with
  | some block => block.Admits party.addr
  | none => ∃ pod ∈ party.pod,
      (match peer.namespaceSelector with
        | some selector => selector.Matches pod.nsLabels
        | none => pod.ns = ns) ∧
      ∀ selector ∈ peer.podSelector, selector.Matches pod.labels

/-- A named port is the one of that name of the Pod connected to. -/
def NetworkPolicyPort.Covers (port : NetworkPolicyPort) (pod : Option Workload)
    (protocol : Protocol) (q : Int) : Prop :=
  port.protocol = protocol ∧
    match port.port with
    | none => True
    | some (.int n) => q = n
    | some (.string name) => ∃ w ∈ pod, (name, protocol, q) ∈ w.ports

def RuleAdmits (peers : List NetworkPolicyPeer) (ports : List NetworkPolicyPort) (ns : String)
    (other : Party) (destination : Option Workload) (protocol : Protocol) (q : Int) : Prop :=
  (peers = [] ∨ ∃ peer ∈ peers, peer.Selects ns other) ∧
    (ports = [] ∨ ∃ port ∈ ports, port.Covers destination protocol q)

namespace NetworkPolicy

def Selects (policy : NetworkPolicy) (pod : Workload) : Prop :=
  policy.key.ns = pod.ns ∧ policy.spec.podSelector.Matches pod.labels

def AdmitsIngress (policy : NetworkPolicy) (source : Party) (pod : Workload) (protocol : Protocol)
    (q : Int) : Prop :=
  ∃ rule ∈ policy.spec.ingress,
    RuleAdmits rule.fromPeers rule.ports policy.key.ns source (some pod) protocol q

def AdmitsEgress (policy : NetworkPolicy) (destination : Party) (protocol : Protocol) (q : Int) :
    Prop :=
  ∃ rule ∈ policy.spec.egress,
    RuleAdmits rule.toPeers rule.ports policy.key.ns destination destination.pod protocol q

end NetworkPolicy

def Restricts (policies : List NetworkPolicy) (direction : PolicyType) (pod : Workload)
    (policy : NetworkPolicy) : Prop :=
  policy ∈ policies ∧ policy.Selects pod ∧ direction ∈ policy.spec.policyTypes

/-- Policies add up: a Pod is open in a direction unless one restricts it, and then to what any of
those admits. -/
def Admitted (policies : List NetworkPolicy) (direction : PolicyType) (pod : Workload)
    (admits : NetworkPolicy → Prop) : Prop :=
  (∀ policy, ¬ Restricts policies direction pod policy) ∨
    ∃ policy, Restricts policies direction pod policy ∧ admits policy

def IngressAdmitted (policies : List NetworkPolicy) (source : Party) (pod : Workload)
    (protocol : Protocol) (q : Int) : Prop :=
  Admitted policies .ingress pod (·.AdmitsIngress source pod protocol q)

def EgressAdmitted (policies : List NetworkPolicy) (pod : Workload) (destination : Party)
    (protocol : Protocol) (q : Int) : Prop :=
  Admitted policies .egress pod (·.AdmitsEgress destination protocol q)

theorem admitted_by_only {policies : List NetworkPolicy} {direction : PolicyType} {pod : Workload}
    {policy : NetworkPolicy} (h : Restricts policies direction pod policy)
    (honly : ∀ other, Restricts policies direction pod other → other = policy)
    (admits : NetworkPolicy → Prop) : Admitted policies direction pod admits ↔ admits policy := by
  constructor
  · rintro (hnone | ⟨other, hother, hadmits⟩)
    · exact absurd h (hnone policy)
    · exact honly other hother ▸ hadmits
  · exact fun hadmits => Or.inr ⟨policy, h, hadmits⟩

/-- The ports that `gatewayPodSpec` names. -/
def gatewayContainerPorts : List (String × Protocol × Int) :=
  [("status", .tcp, gatewayStatusPort), ("metrics", .tcp, 8090)]

/-- A gateway Pod on the network. Who labels its namespace is left open. -/
def gatewayWorkload (pod : Pod) (nsLabels : List (String × String)) : Workload :=
  ⟨pod.key.ns, nsLabels, pod.labels, gatewayContainerPorts⟩

def Party.IsCollector (party : Party) : Prop :=
  ∃ pod ∈ party.pod, pod.nsLabels.lookup "kubernetes.io/metadata.name" = some "nais-system" ∧
    pod.labels.lookup "app.kubernetes.io/name" = some "alloy"

/-- What may reach a gateway: WireGuard and the status page from anywhere, and the metrics page
from the collector. -/
def GatewayIngress (source : Party) (protocol : Protocol) (q : Int) : Prop :=
  (protocol = .udp ∧ q = gatewayPort) ∨ (protocol = .tcp ∧ q = gatewayStatusPort) ∨
    (protocol = .tcp ∧ q = 8090 ∧ source.IsCollector)

def TunnelTargetPodSelector.Matches (selector : TunnelTargetPodSelector)
    (labels : List (String × String)) : Prop :=
  (∀ l ∈ selector.matchLabels, labels.lookup l.1 = some l.2) ∧
    ∀ requirement ∈ selector.matchExpressions, requirement.Matches labels

/-- The parties that a target of a Tunnel in the namespace `ns` means: the Pods of the namespace
with the labels it asks for, or the one address it names. -/
def TunnelTarget.Means (target : TunnelTarget) (ns : String) (party : Party) : Prop :=
  match target.podSelector with
  | some selector => ∃ pod ∈ party.pod, pod.ns = ns ∧ selector.Matches pod.labels
  | none => parseAddr (trimSpace target.resolvedIP) = some party.addr

/-- A target that is an address is an IPv4 address written without blanks. -/
def TunnelTarget.Plain (target : TunnelTarget) : Prop :=
  target.podSelector = none → ∀ a, parseAddr (trimSpace target.resolvedIP) = some a →
    (∃ x, a = .v4 x) ∧ trimSpace target.resolvedIP = target.resolvedIP

/-- What a gateway may reach: the target's port at the target, and anything over UDP. -/
def GatewayEgress (target : TunnelTarget) (ns : String) (destination : Party) (protocol : Protocol)
    (q : Int) : Prop :=
  protocol = .udp ∨ (protocol = .tcp ∧ q = target.port ∧ target.Means ns destination)

section Policy

variable {policy : NetworkPolicy} {tunnel : Tunnel}

theorem admitsIngress_networkPolicySpec (hspec : policy.spec = networkPolicySpec tunnel)
    (source : Party) (pod : Pod) (nsLabels : List (String × String)) (protocol : Protocol)
    (q : Int) :
    policy.AdmitsIngress source (gatewayWorkload pod nsLabels) protocol q ↔
      GatewayIngress source protocol q := by
  have hcollector : NetworkPolicyPeer.Selects
      { namespaceSelector := some ⟨[("kubernetes.io/metadata.name", "nais-system")], []⟩
        podSelector := some ⟨[("app.kubernetes.io/name", "alloy")], []⟩ } policy.key.ns source ↔
      source.IsCollector := by
    simp [NetworkPolicyPeer.Selects, LabelSelector.Matches, Party.IsCollector]
  simp only [NetworkPolicy.AdmitsIngress, hspec, networkPolicySpec, RuleAdmits, List.mem_cons,
    List.not_mem_nil, or_false, exists_eq_or_imp, exists_eq_left, hcollector]
  simp only [NetworkPolicyPort.Covers, gatewayWorkload, gatewayContainerPorts, GatewayIngress,
    gatewayPort]
  cases protocol with
  | udp => simp
  | tcp =>
      simp only [gatewayStatusPort, reduceCtorEq, false_and, true_and, false_or]
      simp
      tauto

theorem admitsEgress_networkPolicySpec (hspec : policy.spec = networkPolicySpec tunnel)
    (destination : Party) (protocol : Protocol) (q : Int) :
    policy.AdmitsEgress destination protocol q ↔
      protocol = .udp ∨ (protocol = .tcp ∧ q = tunnel.spec.target.port ∧
        ∃ peer ∈ (targetEgressRule tunnel.spec.target).toPeers,
          peer.Selects policy.key.ns destination) := by
  simp only [NetworkPolicy.AdmitsEgress, hspec, networkPolicySpec, RuleAdmits, List.mem_cons,
    List.not_mem_nil, or_false, exists_eq_or_imp, exists_eq_left]
  simp only [targetEgressRule, NetworkPolicyPort.Covers]
  cases protocol with
  | udp => simp
  | tcp => simp [and_comm]

theorem targetEgressRule_means_iff (target : TunnelTarget) (ns : String) :
    (∀ party, (∃ peer ∈ (targetEgressRule target).toPeers, peer.Selects ns party) ↔
      target.Means ns party) ↔ target.Plain := by
  unfold targetEgressRule TunnelTarget.Means TunnelTarget.Plain
  cases target.podSelector with
  | some selector =>
      simp [NetworkPolicyPeer.Selects, networkPolicyPodSelector, LabelSelector.Matches,
        TunnelTargetPodSelector.Matches]
  | none =>
      have hparty : (∀ party : Party, IPBlock.Admits ⟨target.resolvedIP ++ "/32"⟩ party.addr ↔
          parseAddr (trimSpace target.resolvedIP) = some party.addr) ↔
          ∀ b, IPBlock.Admits ⟨target.resolvedIP ++ "/32"⟩ b ↔
            parseAddr (trimSpace target.resolvedIP) = some b :=
        ⟨fun h b => h ⟨b, none⟩, fun h party => h party.addr⟩
      simpa [NetworkPolicyPeer.Selects, hparty] using block_exact_iff target

/-- The policy lets the gateway reach its target and nothing else over TCP, if and only if the
target's address is one that its block can name. -/
theorem admitsEgress_exact_iff (hspec : policy.spec = networkPolicySpec tunnel) :
    (∀ destination protocol q, policy.AdmitsEgress destination protocol q ↔
      GatewayEgress tunnel.spec.target policy.key.ns destination protocol q) ↔
      tunnel.spec.target.Plain := by
  rw [← targetEgressRule_means_iff tunnel.spec.target policy.key.ns]
  simp only [admitsEgress_networkPolicySpec hspec, GatewayEgress]
  constructor
  · intro h party
    simpa using h party .tcp tunnel.spec.target.port
  · intro h destination protocol q
    rw [h destination]

/-- The policy of one Tunnel selects the Pods with the labels of its gateway, and no other gateway
in its namespace. -/
theorem selects_networkPolicySpec {name : String} (hspec : policy.spec = networkPolicySpec tunnel)
    {pod : Pod} (hlabels : pod.labels = gatewayLabels name) (nsLabels : List (String × String)) :
    policy.Selects (gatewayWorkload pod nsLabels) ↔
      policy.key.ns = pod.key.ns ∧ name = tunnel.key.name := by
  simp [NetworkPolicy.Selects, LabelSelector.Matches, hspec, networkPolicySpec, gatewayWorkload,
    hlabels, gatewayLabels, List.lookup_cons]

end Policy

end TunnelOperator
