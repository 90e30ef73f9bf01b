import TunnelOperator.GoText

/-!
# API objects

The Tunnel resource of `api/v1alpha1` and the parts of the Kubernetes Pod,
NetworkPolicy and Service objects that the operator reads or writes. Metadata
keeps the fields the code uses; object identities are natural numbers.
-/

namespace TunnelOperator

/-- `types.NamespacedName`. The API server admits no namespace that contains a slash. -/
structure NamespacedName where
  ns : String
  name : String
  slashFree : '/' ∉ ns.toList
  deriving DecidableEq

/-- `client.ObjectKey` as configured from the environment, hence unchecked. -/
structure ObjectKey where
  ns : String
  name : String
  deriving DecidableEq

def tunnelKey (k : NamespacedName) : String := k.ns ++ "/" ++ k.name

theorem append_slash_inj {a b c d : List Char} (ha : '/' ∉ a) (hc : '/' ∉ c)
    (h : a ++ '/' :: b = c ++ '/' :: d) : a = c ∧ b = d := by
  induction a generalizing c with
  | nil =>
      cases c with
      | nil => exact ⟨rfl, by simpa using h⟩
      | cons x c => exact absurd (List.cons.inj h).1 (by rintro rfl; simp at hc)
  | cons y a ih =>
      cases c with
      | nil => exact absurd (List.cons.inj h).1 (by rintro rfl; simp at ha)
      | cons x c =>
          obtain ⟨hxy, ht⟩ := List.cons.inj h
          simp only [List.mem_cons, not_or] at ha hc
          obtain ⟨hac, hbd⟩ := ih ha.2 hc.2 ht
          exact ⟨by rw [hxy, hac], hbd⟩

theorem tunnelKey_injective : Function.Injective tunnelKey := by
  rintro ⟨ns, name, hs⟩ ⟨ns', name', hs'⟩ h
  have hl : ns.toList ++ '/' :: name.toList = ns'.toList ++ '/' :: name'.toList := by
    simpa [tunnelKey, String.toList_append] using congrArg String.toList h
  obtain ⟨h₁, h₂⟩ := append_slash_inj hs hs' hl
  obtain rfl := String.toList_injective h₁
  obtain rfl := String.toList_injective h₂
  rfl

@[simp] theorem tunnelKey_inj {k k' : NamespacedName} : tunnelKey k = tunnelKey k' ↔ k = k' :=
  tunnelKey_injective.eq_iff

/-- An error of a Kubernetes API call. -/
inductive ApiError where
  | notFound
  | alreadyExists
  | conflict
  | other (message : String)
  deriving DecidableEq

def ApiError.message : ApiError → String
  | .notFound => "not found"
  | .alreadyExists => "already exists"
  | .conflict => "the object has been modified"
  | .other m => m

/-- `client.IgnoreNotFound`. -/
def ApiError.ignoreNotFound : ApiError → Except String Unit
  | .notFound => .ok ()
  | e => .error e.message

inductive TunnelPhase where
  | empty
  | pending
  | provisioning
  | ready
  | connected
  | failed
  | terminated
  deriving DecidableEq

/-- `metav1.LabelSelectorRequirement`. -/
structure LabelSelectorRequirement where
  key : String
  operator : String
  values : List String
  deriving DecidableEq

structure TunnelTargetPodSelector where
  matchLabels : List (String × String)
  matchExpressions : List LabelSelectorRequirement
  deriving DecidableEq

structure TunnelTarget where
  host : String
  port : Int
  resolvedIP : String
  podSelector : Option TunnelTargetPodSelector
  deriving DecidableEq

structure TunnelSpec where
  target : TunnelTarget
  clientPublicKey : String
  activeDeadlineSeconds : Option Int
  deriving DecidableEq

structure TunnelStatus where
  phase : TunnelPhase := .empty
  gatewayPublicKey : String := ""
  forwarderPort : Int := 0
  forwarderEndpoint : String := ""
  gatewayPodName : String := ""
  gatewayPodUID : String := ""
  gatewayPodIP : String := ""
  mappingRevision : Int := 0
  message : String := ""
  deriving DecidableEq

/-- A Tunnel object. `uid` is the identity the API server gives an object when it is
created, and `resourceVersion` changes with every write to it. -/
structure Tunnel where
  key : NamespacedName
  uid : ℕ
  resourceVersion : ℕ
  deletionTimestamp : Bool
  finalizers : List String
  spec : TunnelSpec
  status : TunnelStatus
  deriving DecidableEq

inductive PodPhase where
  | empty
  | pending
  | running
  | succeeded
  | failed
  | unknown
  deriving DecidableEq

inductive PodConditionType where
  | ready
  | other (name : String)
  deriving DecidableEq

inductive ConditionStatus where
  | isTrue
  | isFalse
  | unknown
  deriving DecidableEq

structure PodCondition where
  type : PodConditionType
  status : ConditionStatus
  deriving DecidableEq

structure PodStatus where
  phase : PodPhase := .empty
  podIP : String := ""
  conditions : List PodCondition := []
  deriving DecidableEq

structure EnvVar where
  name : String
  value : String
  deriving DecidableEq

structure Pod where
  key : NamespacedName
  uid : String
  labels : List (String × String)
  image : String
  activeDeadlineSeconds : Int
  env : List EnvVar
  owner : ℕ
  status : PodStatus
  deriving DecidableEq

/-- The first condition of type Ready decides, as the loop in the source does. -/
def isPodReady (pod : Pod) : Bool :=
  match pod.status.conditions.find? (fun c => c.type = .ready) with
  | some c => c.status = .isTrue
  | none => false

inductive Protocol where
  | tcp
  | udp
  deriving DecidableEq

inductive IntOrString where
  | int (n : Int)
  | string (s : String)
  deriving DecidableEq

structure NetworkPolicyPort where
  protocol : Protocol
  port : Option IntOrString
  deriving DecidableEq

structure LabelSelector where
  matchLabels : List (String × String)
  matchExpressions : List LabelSelectorRequirement
  deriving DecidableEq

structure IPBlock where
  cidr : String
  deriving DecidableEq

structure NetworkPolicyPeer where
  podSelector : Option LabelSelector := none
  namespaceSelector : Option LabelSelector := none
  ipBlock : Option IPBlock := none
  deriving DecidableEq

structure NetworkPolicyIngressRule where
  fromPeers : List NetworkPolicyPeer
  ports : List NetworkPolicyPort
  deriving DecidableEq

structure NetworkPolicyEgressRule where
  toPeers : List NetworkPolicyPeer
  ports : List NetworkPolicyPort
  deriving DecidableEq

inductive PolicyType where
  | ingress
  | egress
  deriving DecidableEq

structure NetworkPolicySpec where
  podSelector : LabelSelector
  policyTypes : List PolicyType
  ingress : List NetworkPolicyIngressRule
  egress : List NetworkPolicyEgressRule
  deriving DecidableEq

structure NetworkPolicy where
  key : NamespacedName
  labels : List (String × String)
  spec : NetworkPolicySpec
  owner : ℕ
  deriving DecidableEq

/-- `Service.status.loadBalancer.ingress`, by IP. -/
structure Service where
  ingressIPs : List String
  deriving DecidableEq

end TunnelOperator
