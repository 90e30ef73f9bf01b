import TunnelOperator.ComputedStatus

/-!
# The status a Tunnel settles in

When the gateway, the forwarders and the forwarder service keep giving the same answers, the
evaluation of a Pod is a function on statuses, `settle`, and applying it again changes nothing.
The flags with which the source reports a change say exactly that the status has changed.
-/

namespace TunnelOperator
open Interaction GoText

abbrev Answers := (op : Op) → op.Ans

namespace TunnelReconciler

section Settle

variable (r : TunnelReconciler) (a : Answers)

/-- The address that `resolveForwarderVIP` finds. -/
def vip : Option String :=
  if r.forwarderVIP ≠ "" then some r.forwarderVIP
  else if r.forwarderServiceKey.name = "" then none
  else
    match a (.getService r.forwarderServiceKey) with
    | .error _ => none
    | .ok svc => svc.ingressIPs.find? (· ≠ "")

def withEndpoint (s : TunnelStatus) : TunnelStatus :=
  match r.vip a with
  | none => s
  | some vip => { s with forwarderEndpoint := joinHostPort vip (itoa s.forwarderPort) }

/-- No forwarder's acknowledgement of the mapping is missing. -/
def Acknowledged (key : NamespacedName) (s : TunnelStatus) : Prop :=
  r.forwarderServer = true → a (.missingAcks key.ns key.name s.mappingRevision) = []

instance (key : NamespacedName) (s : TunnelStatus) : Decidable (r.Acknowledged a key s) :=
  inferInstanceAs (Decidable (_ → _))

def settleReady (key : NamespacedName) (pod : Pod) (s : TunnelStatus) : TunnelStatus :=
  if pod.status.podIP = "" then r.withEndpoint a s
  else
    match a (.fetchGatewayStatus pod) with
    | .error _ => r.withEndpoint a s
    | .ok pubKey =>
        if pubKey = "" then r.withEndpoint a s
        else if r.Acknowledged a key s then
          r.withEndpoint a
            { s with gatewayPublicKey := pubKey, phase := .ready, message := "Gateway ready" }
        else
          { s with
            gatewayPublicKey := pubKey, phase := .provisioning
            message := "Waiting for forwarder mapping acknowledgement" }

def settleFinal (phase : TunnelPhase) (message : String) (s : TunnelStatus) : TunnelStatus :=
  if s.phase = phase then s else { s with phase := phase, message := message }

def settle (key : NamespacedName) (pod : Pod) (s : TunnelStatus) : TunnelStatus :=
  if pod.status.phase = .failed then settleFinal .failed "Gateway pod failed" s
  else if pod.status.phase = .succeeded then settleFinal .terminated "Gateway terminated" s
  else if isPodReady pod then r.settleReady a key pod s
  else { s with phase := .provisioning, message := "Gateway pod starting" }

theorem withEndpoint_idem (s : TunnelStatus) :
    r.withEndpoint a (r.withEndpoint a s) = r.withEndpoint a s := by
  unfold withEndpoint
  cases r.vip a <;> rfl

theorem settleReady_idem (key : NamespacedName) (pod : Pod) (s : TunnelStatus) :
    r.settleReady a key pod (r.settleReady a key pod s) = r.settleReady a key pod s := by
  unfold settleReady
  by_cases hip : pod.status.podIP = ""
  · simp only [if_pos hip, withEndpoint_idem]
  · simp only [if_neg hip]
    cases a (.fetchGatewayStatus pod) with
    | error err => exact r.withEndpoint_idem a s
    | ok pubKey =>
        by_cases hkey : pubKey = ""
        · simp only [if_pos hkey, withEndpoint_idem]
        · simp only [if_neg hkey]
          by_cases hack : r.Acknowledged a key s
          · simp only [if_pos hack]
            -- the acknowledged revision is not touched
            have hack' : ∀ s', s'.mappingRevision = s.mappingRevision →
                r.Acknowledged a key s' := by
              intro s' hrev
              rwa [Acknowledged, hrev]
            unfold withEndpoint
            cases r.vip a with
            | none => exact if_pos (hack' _ rfl)
            | some vip => exact if_pos (hack' _ rfl)
          · simp only [if_neg hack]
            exact if_neg hack

theorem settleFinal_idem (phase : TunnelPhase) (message : String) (s : TunnelStatus) :
    settleFinal phase message (settleFinal phase message s) = settleFinal phase message s := by
  by_cases hphase : s.phase = phase
  · simp only [settleFinal, if_pos hphase]
  · simp only [settleFinal, if_neg hphase, if_true]

theorem settle_idem (key : NamespacedName) (pod : Pod) (s : TunnelStatus) :
    r.settle a key pod (r.settle a key pod s) = r.settle a key pod s := by
  unfold settle
  split_ifs
  · exact settleFinal_idem _ _ s
  · exact settleFinal_idem _ _ s
  · exact r.settleReady_idem a key pod s
  · rfl

end Settle

/-- The answers in a trace are the fixed ones, and the forwarder service has only been looked up
if one is configured. -/
structure Consistent (r : TunnelReconciler) (a : Answers) (tr : Trace) : Prop where
  service : ∀ {k ans}, Answered tr (.getService k) ans → ans = a (.getService k)
  configured : ∀ {k ans}, Answered tr (.getService k) ans → r.forwarderServiceKey.name ≠ ""
  fetched : ∀ {pod ans}, Answered tr (.fetchGatewayStatus pod) ans →
    ans = a (.fetchGatewayStatus pod)
  missing : ∀ {ns name revision ans}, Answered tr (.missingAcks ns name revision) ans →
    ans = a (.missingAcks ns name revision)

variable {r : TunnelReconciler} {a : Answers} {req : NamespacedName} {tr : Trace}
  {t₀ base m : Tunnel} {pod : Pod} {allocated changed : Bool} {e e' : Evaluation}

section Flags

variable (e) (phase : TunnelPhase) (message key : String)

theorem setPhaseMessage_status : (setPhaseMessage e phase message).tunnel.status =
    { e.tunnel.status with phase := phase, message := message } := by
  unfold setPhaseMessage
  split_ifs with h
  · rfl
  · simp only [ne_eq, not_or, not_not] at h
    rw [← h.1, ← h.2]

theorem setFinalPhase_status :
    (setFinalPhase e phase message).tunnel.status = settleFinal phase message e.tunnel.status := by
  unfold setFinalPhase settleFinal
  by_cases h : e.tunnel.status.phase = phase
  · simp only [ne_eq, h, not_true_eq_false, if_false, if_true]
  · simp only [ne_eq, h, not_false_eq_true, if_true, if_false]

theorem setPublicKey_status :
    (setPublicKey e key).tunnel.status = { e.tunnel.status with gatewayPublicKey := key } := by
  unfold setPublicKey
  split_ifs with h
  · rfl
  · rw [← not_not.mp h]

end Flags

theorem Vip.vip_eq {v : String} (h : Vip r tr v) (hc : Consistent r a tr) : r.vip a = some v := by
  obtain ⟨hne, rfl | ⟨hvip, svc, hsvc, hfind⟩⟩ := h
  · exact if_pos hne
  · rw [vip, if_neg (not_not.mpr hvip), if_neg (hc.configured hsvc), ← hc.service hsvc]
    exact hfind

theorem VipUnavailable.vip_eq (h : VipUnavailable r tr) (hc : Consistent r a tr) :
    r.vip a = none := by
  obtain ⟨hvip, hrest⟩ := h
  rw [vip, if_neg (not_not.mpr hvip)]
  by_cases hname : r.forwarderServiceKey.name = ""
  · exact if_pos hname
  · rw [if_neg hname]
    obtain ⟨err, hsvc⟩ | ⟨svc, hsvc, hfind⟩ := hrest.resolve_left hname
    · rw [← hc.service hsvc]
    · rw [← hc.service hsvc]
      exact hfind

theorem EndpointUpdated.status (h : EndpointUpdated r tr e e') (hc : Consistent r a tr) :
    e'.tunnel.status = r.withEndpoint a e.tunnel.status := by
  cases h with
  | unchanged v hv heq =>
      simp only [withEndpoint, hv.vip_eq hc]
      rw [← vipEndpoint, ← heq]
  | changed v hv hne =>
      simp only [withEndpoint, hv.vip_eq hc]
      rfl
  | unavailable hu => simp only [withEndpoint, hu.vip_eq hc]

theorem Unconfirmed.settleReady_eq (h : Unconfirmed tr pod) (hc : Consistent r a tr)
    (key : NamespacedName) (s : TunnelStatus) : r.settleReady a key pod s = r.withEndpoint a s := by
  unfold settleReady
  by_cases hip : pod.status.podIP = ""
  · exact if_pos hip
  · rw [if_neg hip]
    obtain ⟨err, hfetch⟩ | hfetch := h.resolve_left hip
    · rw [← hc.fetched hfetch]
    · rw [← hc.fetched hfetch]
      exact if_pos rfl

theorem Evaluated.status (h : Evaluated r tr m pod e) (hc : Consistent r a tr) :
    e.tunnel.status = r.settle a m.key pod m.status := by
  cases h with
  | failed hp => rw [setFinalPhase_status, settle, if_pos hp]
  | succeeded hp =>
      have hne : pod.status.phase ≠ .failed := by
        rw [hp]
        decide
      rw [setFinalPhase_status, settle, if_neg hne, if_pos hp]
  | starting hf hs hr =>
      rw [setPhaseMessage_status, settle, if_neg hf, if_neg hs,
        if_neg (by rw [hr]; exact Bool.false_ne_true)]
  | unconfirmed n e hf hs hr hu hend =>
      rw [hend.status hc, settle, if_neg hf, if_neg hs, if_pos hr, hu.settleReady_eq hc]
  | waiting key missing hf hs hr hip hkey hfetch hserver hmissing hne =>
      have hack : ¬ r.Acknowledged a m.key m.status := by
        intro hack
        rw [hc.missing hmissing, hack hserver] at hne
        exact hne rfl
      rw [settle, if_neg hf, if_neg hs, if_pos hr, settleReady, if_neg hip, ← hc.fetched hfetch]
      simp only [if_neg hkey, if_neg hack]
      rw [setPhaseMessage_status, setPublicKey_status]
  | confirmed key e hf hs hr hip hkey hfetch hmissing hend =>
      have hack : r.Acknowledged a m.key m.status :=
        fun hserver => (hc.missing (hmissing hserver)).symm
      rw [settle, if_neg hf, if_neg hs, if_pos hr, settleReady, if_neg hip, ← hc.fetched hfetch]
      simp only [if_neg hkey, if_pos hack]
      rw [hend.status hc, setPhaseMessage_status, setPublicKey_status]

section Changed

theorem setPhaseMessage_of_status {phase : TunnelPhase} {message : String}
    (hphase : e.tunnel.status.phase = phase) (hmessage : e.tunnel.status.message = message) :
    setPhaseMessage e phase message = e := by
  simp [setPhaseMessage, hphase, hmessage]

theorem setPublicKey_of_status {key : String} (h : e.tunnel.status.gatewayPublicKey = key) :
    setPublicKey e key = e := by
  simp [setPublicKey, h]

theorem EndpointUpdated.updated_of_status (h : EndpointUpdated r tr e e')
    (heq : e'.tunnel.status.forwarderEndpoint = e.tunnel.status.forwarderEndpoint) :
    e'.updated = e.updated := by
  cases h with
  | unchanged v hv _ => rfl
  | changed v hv hne => exact absurd heq.symm hne
  | unavailable hu => rfl

theorem EndpointUpdated.message (h : EndpointUpdated r tr e e') :
    e'.tunnel.status.message = e.tunnel.status.message := by
  cases h <;> rfl

theorem keyed_phase_not_updated {key message : String} {phase : TunnelPhase}
    (hkey : m.status.gatewayPublicKey = key) (hphase : m.status.phase = phase)
    (hmessage : m.status.message = message) :
    (setPhaseMessage (setPublicKey ⟨m, false, 0⟩ key) phase message).updated = false := by
  rw [setPublicKey_of_status hkey, setPhaseMessage_of_status hphase hmessage]

theorem Evaluated.not_updated (h : Evaluated r tr m pod e) (heq : e.tunnel.status = m.status) :
    e.updated = false := by
  cases h with
  | failed _ =>
      have hphase := congrArg TunnelStatus.phase heq
      simp only [setFinalPhase_phase] at hphase
      simp [setFinalPhase, ← hphase]
  | succeeded _ =>
      have hphase := congrArg TunnelStatus.phase heq
      simp only [setFinalPhase_phase] at hphase
      simp [setFinalPhase, ← hphase]
  | starting _ _ _ =>
      rw [setPhaseMessage_status] at heq
      rw [setPhaseMessage_of_status (congrArg TunnelStatus.phase heq).symm
        (congrArg TunnelStatus.message heq).symm]
  | unconfirmed n e _ _ _ _ hend =>
      exact hend.updated_of_status (congrArg TunnelStatus.forwarderEndpoint heq)
  | waiting key missing =>
      simp only [setPhaseMessage_status, setPublicKey_status] at heq
      exact keyed_phase_not_updated (congrArg TunnelStatus.gatewayPublicKey heq).symm
        (congrArg TunnelStatus.phase heq).symm (congrArg TunnelStatus.message heq).symm
  | confirmed key e _ _ _ _ _ _ _ hend =>
      have hkey := congrArg TunnelStatus.gatewayPublicKey heq
      have hphase := congrArg TunnelStatus.phase heq
      have hmessage := congrArg TunnelStatus.message heq
      have hendpoint := congrArg TunnelStatus.forwarderEndpoint heq
      rw [hend.gatewayPublicKey, setPhaseMessage_gatewayPublicKey,
        setPublicKey_gatewayPublicKey] at hkey
      rw [hend.phase, setPhaseMessage_phase] at hphase
      rw [hend.message, setPhaseMessage_status] at hmessage
      rw [hend.updated_of_status]
      · exact keyed_phase_not_updated hkey.symm hphase.symm hmessage.symm
      · rw [hendpoint, setPhaseMessage_status, setPublicKey_status]

theorem Evaluated.updated_iff (h : Evaluated r tr m pod e) :
    e.updated = true ↔ e.tunnel.status ≠ m.status := by
  constructor
  · intro hu heq
    rw [h.not_updated heq] at hu
    cases hu
  · intro hne
    by_contra hu
    exact hne (congrArg Tunnel.status (h.eq_of_not_updated (Bool.eq_false_iff.mpr hu)))

theorem int64Succ_ne (n : Int) : int64Succ n ≠ n := by
  intro h
  have hdvd : ((2 : Int) ^ 64) ∣ (n + 1) - int64Succ n := Int.dvd_self_sub_bmod
  rw [h] at hdvd
  omega

theorem Computed.patches_iff (h : Computed r req tr t₀ base pod allocated changed m e) :
    (changed || e.updated) = true ↔ e.tunnel.status ≠ base.status := by
  cases hch : changed with
  | true =>
      have hrev : e.tunnel.status.mappingRevision = int64Succ base.status.mappingRevision := by
        rw [h.evaluated.sameMapping.mappingRevision, h.toMapped.mappingRevision, hch, if_pos rfl]
      simp only [Bool.true_or, true_iff]
      intro heq
      rw [heq] at hrev
      exact int64Succ_ne _ hrev.symm
  | false =>
      rw [Bool.false_or, h.evaluated.updated_iff, h.toMapped.eq_of_unchanged hch]

end Changed

theorem Mapped.status_eq {t₀' base' m' : Tunnel} {allocated' changed' : Bool}
    (h : Mapped r req tr t₀ base pod allocated changed m)
    (h' : Mapped r req tr t₀' base' pod allocated' changed' m') (hkey : base'.key = base.key)
    (hstatus : base'.status = base.status)
    (hport : ∀ {p p'}, Answered tr (.allocate (tunnelKey base.key)) (.ok p) →
      Answered tr (.allocate (tunnelKey base.key)) (.ok p') → p' = p) : m'.status = m.status := by
  obtain ⟨t, ht, hch, rfl⟩ := h.hasPort
  obtain ⟨t', ht', hch', rfl⟩ := h'.hasPort
  have hsame : t'.status = t.status ∧ allocated' = allocated := by
    rcases ht with ⟨rfl, rfl, hno⟩ | ⟨rfl, hzero, hyes, p, hp, rfl⟩
    · rcases ht' with ⟨rfl, rfl, -⟩ | ⟨-, hzero, hyes, -⟩
      · exact ⟨hstatus, rfl⟩
      · rw [hstatus] at hzero
        rcases hno with hno | hno
        · exact absurd hzero hno
        · rw [hno] at hyes
          cases hyes
    · rcases ht' with ⟨-, -, hno⟩ | ⟨rfl, -, -, p', hp', rfl⟩
      · rw [hstatus] at hno
        rcases hno with hno | hno
        · exact absurd hzero hno
        · rw [hno] at hyes
          cases hyes
      · rw [hkey] at hp'
        rw [hport hp hp', hstatus]
        exact ⟨rfl, rfl⟩
  rw [hch, hch']
  simp only [mapped, mappingChanged, hsame.1, hsame.2, hkey]

theorem Mapped.eq_of_recorded (h : Mapped r req tr t₀ base pod allocated changed m)
    (hport : base.status.forwarderPort ≠ 0 ∨ r.portAllocator = false)
    (hrecorded : podDiffers base.status (gatewayResourceName base.key.name) pod = false) :
    changed = false ∧ m = base := by
  have hch : changed = false := by
    obtain ⟨t, ⟨rfl, rfl, -⟩ | ⟨-, hzero, hyes, -⟩, hch, -⟩ := h.hasPort
    · rw [hch, mappingChanged, Bool.false_or]
      exact hrecorded
    · rcases hport with hno | hno
      · exact absurd hzero hno
      · rw [hno] at hyes
        cases hyes
  exact ⟨hch, h.eq_of_unchanged hch⟩

/-- A Tunnel that a further reconciliation has nothing to do for. -/
structure Settled (r : TunnelReconciler) (a : Answers) (t : Tunnel) (pod : Pod) : Prop where
  port : t.status.forwarderPort ≠ 0 ∨ r.portAllocator = false
  recorded : podDiffers t.status (gatewayResourceName t.key.name) pod = false
  stable : r.settle a t.key pod t.status = t.status

theorem Computed.settled (h : Computed r req tr t₀ base pod allocated changed m e)
    (hc : Consistent r a tr)
    (hport : ∀ {p}, Answered tr (.allocate (tunnelKey base.key)) (.ok p) → p ≠ 0) {t : Tunnel}
    (hkey : t.key = base.key) (hstatus : t.status = e.tunnel.status) : Settled r a t pod where
  port := by
    rw [hstatus, h.evaluated.sameMapping.forwarderPort]
    rcases h.toMapped.forwarderPort with ⟨heq, hno⟩ | ⟨-, -, hans⟩
    · rwa [heq]
    · exact Or.inl (hport hans)
  recorded := by
    have hmap := h.evaluated.sameMapping
    simp only [podDiffers, hstatus, hkey, hmap.gatewayPodName, hmap.gatewayPodUID,
      hmap.gatewayPodIP, h.toMapped.gatewayPodName, h.toMapped.gatewayPodUID,
      h.toMapped.gatewayPodIP]
    simp
  stable := by
    rw [hstatus, h.evaluated.status hc, hkey, ← h.toMapped.key_eq]
    exact r.settle_idem a m.key pod m.status

theorem Settled.not_patched (hs : Settled r a t₀ pod)
    (h : Computed r req tr t₀ base pod allocated changed m e) (hc : Consistent r a tr)
    (hkey : base.key = t₀.key) (hstatus : base.status = t₀.status) :
    (changed || e.updated) = false := by
  have hm : m = base := by
    refine (h.toMapped.eq_of_recorded ?_ ?_).2
    · rw [hstatus]
      exact hs.port
    · rw [hstatus, hkey]
      exact hs.recorded
  by_contra hpatch
  rw [Bool.not_eq_false, h.patches_iff, h.evaluated.status hc, hm, hkey, hstatus,
    hs.stable] at hpatch
  exact hpatch rfl

end TunnelReconciler
end TunnelOperator
