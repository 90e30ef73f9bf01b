import TunnelOperator.OperatorRun
import TunnelOperator.NetIP

/-!
# The gateway's way out

The operator describes the target of a Tunnel twice: as an address block in the gateway's
NetworkPolicy, and as environment variables from which the gateway program computes the
address it dials. The block is the text of the resolved address followed by `/32`, the
gateway trims that text, so the two name the same destination only for IPv4 addresses
written without blanks.
-/

namespace TunnelOperator
open GoText NetIP

/-- `os.Getenv` in the gateway. -/
def getenv (env : List EnvVar) (key : String) : String :=
  match env.find? fun v => v.name = key with
  | some v => v.value
  | none => ""

def requireEnv (env : List EnvVar) (key : String) : Option String :=
  if trimSpace (getenv env key) = "" then none else some (trimSpace (getenv env key))

def targetAddress (host ip : String) (port : Int) : String :=
  if ip ≠ "" then joinHostPort ip (itoa port) else joinHostPort host (itoa port)

/-- The address that the gateway's `run` computes from the target variables. -/
def gatewayTargetAddress (env : List EnvVar) : Option String := do
  let targetHost ← requireEnv env "TUNNEL_TARGET_HOST"
  let targetIP := trimSpace (getenv env "TUNNEL_TARGET_IP")
  let targetPortStr ← requireEnv env "TUNNEL_TARGET_PORT"
  let targetPort ← atoi targetPortStr
  some (targetAddress targetHost targetIP targetPort)

/-- The destination of `net.Dial` for a numeric address. -/
def dialed (address : String) : Option (Addr × Int) := do
  let (host, port) ← splitHostPort address
  let a ← parseAddr host
  let n ← atoi port
  some (a, n)

/-- A block `addr/n` admits the addresses that agree with `addr` on the first `n` bits. -/
def IPBlock.Admits (block : IPBlock) (b : Addr) : Prop :=
  match parseCIDR block.cidr with
  | some (a, n) => a.Agrees n b
  | none => False

/-- A peer without a block selects Pods, whose addresses are not modelled. -/
def NetworkPolicyPeer.Admits (peer : NetworkPolicyPeer) (b : Addr) : Prop :=
  match peer.ipBlock with
  | some block => block.Admits b
  | none => False

/-- A named port is not a number outside the Pod that declares it. -/
def NetworkPolicyPort.Admits (port : NetworkPolicyPort) (protocol : Protocol) (q : Int) : Prop :=
  port.protocol = protocol ∧
    match port.port with
    | none => True
    | some (.int n) => q = n
    | some (.string _) => False

def NetworkPolicyEgressRule.Admits (rule : NetworkPolicyEgressRule) (protocol : Protocol) (b : Addr)
    (q : Int) : Prop :=
  (rule.toPeers = [] ∨ ∃ peer ∈ rule.toPeers, peer.Admits b) ∧
    (rule.ports = [] ∨ ∃ port ∈ rule.ports, port.Admits protocol q)

section Environment

variable (r : TunnelReconciler) (tunnel : Tunnel)

theorem getenv_targetHost :
    getenv (gatewayEnv r tunnel) "TUNNEL_TARGET_HOST" = tunnel.spec.target.host := by
  unfold gatewayEnv getenv
  split_ifs <;> simp

theorem getenv_targetPort :
    getenv (gatewayEnv r tunnel) "TUNNEL_TARGET_PORT" = itoa tunnel.spec.target.port := by
  unfold gatewayEnv getenv
  split_ifs <;> simp

theorem getenv_targetIP :
    getenv (gatewayEnv r tunnel) "TUNNEL_TARGET_IP" = tunnel.spec.target.resolvedIP := by
  unfold gatewayEnv getenv
  split_ifs with h
  · simp
  · simp [not_not.mp h]

theorem gatewayTargetAddress_gatewayEnv (h : 0 ≤ tunnel.spec.target.port)
    (hlt : tunnel.spec.target.port < 2 ^ 63) :
    gatewayTargetAddress (gatewayEnv r tunnel) =
      if trimSpace tunnel.spec.target.host = "" then none
      else some (targetAddress (trimSpace tunnel.spec.target.host)
        (trimSpace tunnel.spec.target.resolvedIP) tunnel.spec.target.port) := by
  have hne : itoa tunnel.spec.target.port ≠ "" := by
    intro he
    exact toList_itoa_ne_nil h (by rw [he]; rfl)
  simp only [gatewayTargetAddress, requireEnv, getenv_targetHost, getenv_targetPort,
    getenv_targetIP, trimSpace_itoa h, if_neg hne]
  by_cases hhost : trimSpace tunnel.spec.target.host = ""
  · simp [hhost]
  · simp [hhost, atoi_itoa h hlt]

end Environment

theorem dialed_joinHostPort {ip : String} {a : Addr} {n : Int} (ha : parseAddr ip = some a)
    (h : 0 ≤ n) (hlt : n < 2 ^ 63) : dialed (joinHostPort ip (itoa n)) = some (a, n) := by
  have hip : ∀ d, isHexDigit d = false → d ≠ ':' → d ≠ '.' → d ∉ ip.toList := by
    intro d h₁ h₂ h₃ hmem
    exact (parseAddr_chars ha hmem).ne h₁ h₂ h₃ rfl
  have hsplit : splitHostPort (joinHostPort ip (itoa n)) = some (ip, itoa n) :=
    splitHostPort_joinHostPort (hip '[' (by decide) (by decide) (by decide))
      (hip ']' (by decide) (by decide) (by decide)) (not_mem_itoa h (by decide))
      (not_mem_itoa h (by decide)) (not_mem_itoa h (by decide))
  simp [dialed, hsplit, ha, atoi_itoa h hlt]

theorem agrees_exact_iff {a : Addr} {P : Prop} :
    (∀ b, P ∧ a.Agrees 32 b ↔ b = a) ↔ (∃ x, a = .v4 x) ∧ P := by
  constructor
  · intro h
    have hP := ((h a).mpr rfl).1
    cases a with
    | v4 x => exact ⟨⟨x, rfl⟩, hP⟩
    | v6 x =>
        obtain ⟨b, hb, hagrees⟩ := exists_agrees_v6 x
        exact absurd ((h b).mp ⟨hP, hagrees⟩) hb
  · rintro ⟨⟨x, rfl⟩, hP⟩ b
    rw [agrees_v4]
    exact and_iff_right hP

section Target

variable {target : TunnelTarget} {a : Addr}

theorem podSelector_of_validate (hvalid : validateTunnelTarget target = .ok ())
    (hip : trimSpace target.resolvedIP ≠ "") : target.podSelector = none := by
  cases hp : target.podSelector with
  | none => rfl
  | some selector => simp [validateTunnelTarget, hip, hp] at hvalid

theorem parseCIDR_resolvedIP (ha : parseAddr (trimSpace target.resolvedIP) = some a) :
    parseCIDR (target.resolvedIP ++ "/32") =
      if trimSpace target.resolvedIP = target.resolvedIP then some (a, 32) else none := by
  have hslash : '/' ∉ target.resolvedIP.toList := by
    intro hmem
    rcases mem_trimSpace hmem with hspace | hmem
    · cases hspace
    · exact (parseAddr_chars ha hmem).ne (by decide) (by decide) (by decide) rfl
  rw [parseCIDR_append hslash]
  split_ifs with htrim
  · rw [htrim] at ha
    rw [ha]
    rfl
  · cases ha' : parseAddr target.resolvedIP with
    | none => rfl
    | some a' =>
        exact absurd (trimSpace_eq_self fun c hc => (parseAddr_chars ha' hc).not_space) htrim

theorem parseCIDR_unreadable (h : parseAddr (trimSpace target.resolvedIP) = none) :
    parseCIDR (target.resolvedIP ++ "/32") = none := by
  by_cases hslash : '/' ∈ target.resolvedIP.toList
  · exact parseCIDR_two_slashes hslash
  · rw [parseCIDR_append hslash]
    cases ha : parseAddr target.resolvedIP with
    | none => rfl
    | some a =>
        rw [trimSpace_eq_self fun c hc => (parseAddr_chars ha hc).not_space, ha] at h
        cases h

theorem block_exact_iff (target : TunnelTarget) :
    (∀ b, IPBlock.Admits ⟨target.resolvedIP ++ "/32"⟩ b ↔
      parseAddr (trimSpace target.resolvedIP) = some b) ↔
      ∀ a, parseAddr (trimSpace target.resolvedIP) = some a →
        (∃ x, a = .v4 x) ∧ trimSpace target.resolvedIP = target.resolvedIP := by
  unfold IPBlock.Admits
  cases ha : parseAddr (trimSpace target.resolvedIP) with
  | none => simp [parseCIDR_unreadable ha]
  | some a =>
      have hadmits : ∀ b, (match parseCIDR (target.resolvedIP ++ "/32") with
          | some (a, n) => a.Agrees n b
          | none => False) ↔ trimSpace target.resolvedIP = target.resolvedIP ∧ a.Agrees 32 b := by
        intro b
        rw [parseCIDR_resolvedIP ha]
        by_cases htrim : trimSpace target.resolvedIP = target.resolvedIP
        · simp [htrim]
        · simp [htrim]
      simp only [hadmits, Option.some.injEq, forall_eq']
      rw [← agrees_exact_iff]
      simp only [eq_comm]

theorem targetEgressRule_admits (hpod : target.podSelector = none) (b : Addr) (q : Int) :
    (targetEgressRule target).Admits .tcp b q ↔
      IPBlock.Admits ⟨target.resolvedIP ++ "/32"⟩ b ∧ q = target.port := by
  simp [targetEgressRule, hpod, NetworkPolicyEgressRule.Admits, NetworkPolicyPeer.Admits,
    NetworkPolicyPort.Admits]

theorem targetEgressRule_admits_iff (hpod : target.podSelector = none)
    (ha : parseAddr (trimSpace target.resolvedIP) = some a) (b : Addr) (q : Int) :
    (targetEgressRule target).Admits .tcp b q ↔
      trimSpace target.resolvedIP = target.resolvedIP ∧ a.Agrees 32 b ∧ q = target.port := by
  rw [targetEgressRule_admits hpod]
  unfold IPBlock.Admits
  simp only [parseCIDR_resolvedIP ha]
  by_cases htrim : trimSpace target.resolvedIP = target.resolvedIP
  · simp [htrim]
  · simp [htrim]

theorem targetEgressRule_exact_iff (hpod : target.podSelector = none)
    (ha : parseAddr (trimSpace target.resolvedIP) = some a) :
    (∀ b q, (targetEgressRule target).Admits .tcp b q ↔ b = a ∧ q = target.port) ↔
      (∃ x, a = .v4 x) ∧ trimSpace target.resolvedIP = target.resolvedIP := by
  simp only [targetEgressRule_admits_iff hpod ha, ← and_assoc]
  rw [← agrees_exact_iff]
  constructor
  · intro h b
    simpa using h b target.port
  · intro h b q
    rw [h b]

end Target

/-- The egress rule admits exactly the target and the gateway dials it, if and only if the target
is an IPv4 address written without blanks and the host name, which the gateway requires, is
not blank. -/
theorem egress_is_target_iff (r : TunnelReconciler) (tunnel : Tunnel) {a : Addr}
    (hvalid : validateTunnelTarget tunnel.spec.target = .ok ())
    (ha : parseAddr (trimSpace tunnel.spec.target.resolvedIP) = some a)
    (hpos : 1 ≤ tunnel.spec.target.port) (hmax : tunnel.spec.target.port ≤ 65535) :
    ((∀ b q, (targetEgressRule tunnel.spec.target).Admits .tcp b q ↔
        b = a ∧ q = tunnel.spec.target.port) ∧
      (gatewayTargetAddress (gatewayEnv r tunnel)).bind dialed =
        some (a, tunnel.spec.target.port)) ↔
      (∃ x, a = .v4 x) ∧ trimSpace tunnel.spec.target.resolvedIP = tunnel.spec.target.resolvedIP ∧
        trimSpace tunnel.spec.target.host ≠ "" := by
  have hip : trimSpace tunnel.spec.target.resolvedIP ≠ "" := by
    intro he
    rw [he] at ha
    cases ha
  have hnonneg : 0 ≤ tunnel.spec.target.port := by omega
  have hlt : tunnel.spec.target.port < 2 ^ 63 := by omega
  have hdial : (gatewayTargetAddress (gatewayEnv r tunnel)).bind dialed =
      some (a, tunnel.spec.target.port) ↔ trimSpace tunnel.spec.target.host ≠ "" := by
    rw [gatewayTargetAddress_gatewayEnv r tunnel hnonneg hlt, targetAddress, if_pos hip]
    by_cases hhost : trimSpace tunnel.spec.target.host = ""
    · simp [hhost]
    · simp [hhost, dialed_joinHostPort ha hnonneg hlt]
  rw [targetEgressRule_exact_iff (podSelector_of_validate hvalid hip) ha, hdial, and_assoc]

def externalTunnel (resolvedIP : String) : Tunnel :=
  ⟨Scenario.key, 0, 1, false, [], ⟨⟨"db", 5432, resolvedIP, none⟩, "client-key", none⟩, {}⟩

theorem egress_is_ipv4_target :
    (∀ b q, (targetEgressRule (externalTunnel "10.0.0.10").spec.target).Admits .tcp b q ↔
        b = .v4 0x0a00000a ∧ q = 5432) ∧
      (gatewayTargetAddress (gatewayEnv ⟨true, true, ⟨"", ""⟩, "", "", ""⟩
        (externalTunnel "10.0.0.10"))).bind dialed = some (.v4 0x0a00000a, 5432) :=
  (egress_is_target_iff _ (externalTunnel "10.0.0.10") (by decide) (by decide) (by decide)
    (by decide)).mpr ⟨⟨_, rfl⟩, by decide, by decide⟩

/-- The rule for the target `2001:db8::10` admits every address that starts with `2001:db8`. -/
theorem egress_admits_other_ipv6 :
    validateTunnelTarget (externalTunnel "2001:db8::10").spec.target = .ok () ∧
      parseAddr (trimSpace (externalTunnel "2001:db8::10").spec.target.resolvedIP) =
        some (.v6 0x20010db8000000000000000000000010) ∧
      (targetEgressRule (externalTunnel "2001:db8::10").spec.target).Admits .tcp
        (.v6 0x20010db8deadbeef0000000000000001) 5432 := by
  have hpod : (externalTunnel "2001:db8::10").spec.target.podSelector = none := rfl
  have ha : parseAddr (trimSpace (externalTunnel "2001:db8::10").spec.target.resolvedIP) =
      some (.v6 0x20010db8000000000000000000000010) := by decide
  refine ⟨by decide, ha, ?_⟩
  rw [targetEgressRule_admits_iff hpod ha]
  exact ⟨by decide, by decide, rfl⟩

end TunnelOperator
