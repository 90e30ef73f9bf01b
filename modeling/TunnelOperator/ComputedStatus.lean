import TunnelOperator.ReconcileReads

/-!
# The status a reconciliation computes

Field by field: what `recordPod` and `bumpRevision` write, what the evaluation of the Pod
leaves alone, and how the phase and the public key come about.
-/

namespace TunnelOperator
open Interaction

structure SameMapping (s s' : TunnelStatus) : Prop where
  forwarderPort : s'.forwarderPort = s.forwarderPort
  gatewayPodName : s'.gatewayPodName = s.gatewayPodName
  gatewayPodUID : s'.gatewayPodUID = s.gatewayPodUID
  gatewayPodIP : s'.gatewayPodIP = s.gatewayPodIP
  mappingRevision : s'.mappingRevision = s.mappingRevision

theorem SameMapping.refl (s : TunnelStatus) : SameMapping s s := ⟨rfl, rfl, rfl, rfl, rfl⟩

theorem SameMapping.trans {s s' s'' : TunnelStatus} (h : SameMapping s s')
    (h' : SameMapping s' s'') :
    SameMapping s s'' :=
  ⟨h'.1.trans h.1, h'.2.trans h.2, h'.3.trans h.3, h'.4.trans h.4, h'.5.trans h.5⟩

namespace TunnelReconciler

section Record

variable (s : TunnelStatus) (name : String) (pod : Pod) (changed : Bool)

@[simp] theorem recordPod_gatewayPodName : (recordPod s name pod).gatewayPodName = name := by
  simp only [recordPod]; split_ifs <;> simp_all

@[simp] theorem recordPod_gatewayPodUID : (recordPod s name pod).gatewayPodUID = pod.uid := by
  simp only [recordPod]; split_ifs <;> simp_all

@[simp] theorem recordPod_gatewayPodIP : (recordPod s name pod).gatewayPodIP =
    pod.status.podIP := by
  simp only [recordPod]; split_ifs <;> simp_all

@[simp] theorem recordPod_gatewayPublicKey : (recordPod s name pod).gatewayPublicKey =
    if s.gatewayPodUID = pod.uid then s.gatewayPublicKey else "" := by
  simp only [recordPod]; split_ifs <;> simp_all

@[simp] theorem recordPod_phase : (recordPod s name pod).phase = s.phase := by
  simp only [recordPod]; split_ifs <;> rfl

@[simp] theorem recordPod_forwarderPort : (recordPod s name pod).forwarderPort =
    s.forwarderPort := by
  simp only [recordPod]; split_ifs <;> rfl

@[simp] theorem recordPod_mappingRevision :
    (recordPod s name pod).mappingRevision = s.mappingRevision := by
  simp only [recordPod]; split_ifs <;> rfl

theorem recordPod_of_podDiffers (h : podDiffers s name pod = false) : recordPod s name pod = s := by
  simp only [podDiffers, Bool.or_eq_false_iff, decide_eq_false_iff_not, not_not] at h
  simp only [recordPod, h.1.1, h.1.2, h.2, ne_eq, not_true, if_false]

@[simp] theorem bumpRevision_phase : (bumpRevision s changed).phase = s.phase := by
  cases changed <;> rfl

@[simp] theorem bumpRevision_gatewayPublicKey :
    (bumpRevision s changed).gatewayPublicKey = s.gatewayPublicKey := by
  cases changed <;> rfl

@[simp] theorem bumpRevision_forwarderPort :
    (bumpRevision s changed).forwarderPort = s.forwarderPort := by
  cases changed <;> rfl

@[simp] theorem bumpRevision_gatewayPodName :
    (bumpRevision s changed).gatewayPodName = s.gatewayPodName := by
  cases changed <;> rfl

@[simp] theorem bumpRevision_gatewayPodUID :
    (bumpRevision s changed).gatewayPodUID = s.gatewayPodUID := by
  cases changed <;> rfl

@[simp] theorem bumpRevision_gatewayPodIP :
    (bumpRevision s changed).gatewayPodIP = s.gatewayPodIP := by
  cases changed <;> rfl

@[simp] theorem bumpRevision_mappingRevision : (bumpRevision s changed).mappingRevision =
    if changed then int64Succ s.mappingRevision else s.mappingRevision := by
  cases changed <;> rfl

end Record

section Phase

variable (e : Evaluation) (phase : TunnelPhase) (message key : String)

@[simp] theorem setPhaseMessage_phase :
    (setPhaseMessage e phase message).tunnel.status.phase = phase := by
  unfold setPhaseMessage; split_ifs <;> simp_all

@[simp] theorem setPhaseMessage_gatewayPublicKey :
    (setPhaseMessage e phase message).tunnel.status.gatewayPublicKey =
      e.tunnel.status.gatewayPublicKey := by
  unfold setPhaseMessage; split_ifs <;> rfl

theorem setPhaseMessage_sameMapping :
    SameMapping e.tunnel.status (setPhaseMessage e phase message).tunnel.status := by
  unfold setPhaseMessage; split_ifs <;> exact ⟨rfl, rfl, rfl, rfl, rfl⟩

@[simp] theorem setFinalPhase_phase :
    (setFinalPhase e phase message).tunnel.status.phase = phase := by
  unfold setFinalPhase; split_ifs <;> simp_all

theorem setFinalPhase_sameMapping :
    SameMapping e.tunnel.status (setFinalPhase e phase message).tunnel.status := by
  unfold setFinalPhase; split_ifs <;> exact ⟨rfl, rfl, rfl, rfl, rfl⟩

@[simp] theorem setPublicKey_gatewayPublicKey :
    (setPublicKey e key).tunnel.status.gatewayPublicKey = key := by
  unfold setPublicKey; split_ifs <;> simp_all

theorem setPublicKey_sameMapping : SameMapping e.tunnel.status
    (setPublicKey e key).tunnel.status := by
  unfold setPublicKey; split_ifs <;> exact ⟨rfl, rfl, rfl, rfl, rfl⟩

end Phase

variable {r : TunnelReconciler} {req : NamespacedName} {tr : Trace} {t₀ base m : Tunnel} {pod : Pod}
  {allocated changed : Bool} {e e' : Evaluation}

theorem EndpointUpdated.sameMapping (h : EndpointUpdated r tr e e') :
    SameMapping e.tunnel.status e'.tunnel.status := by
  cases h <;> exact ⟨rfl, rfl, rfl, rfl, rfl⟩

theorem EndpointUpdated.phase (h : EndpointUpdated r tr e e') :
    e'.tunnel.status.phase = e.tunnel.status.phase := by
  cases h <;> rfl

theorem EndpointUpdated.gatewayPublicKey (h : EndpointUpdated r tr e e') :
    e'.tunnel.status.gatewayPublicKey = e.tunnel.status.gatewayPublicKey := by
  cases h <;> rfl

theorem Evaluated.sameMapping (h : Evaluated r tr m pod e) :
    SameMapping m.status e.tunnel.status := by
  cases h with
  | failed _ => exact setFinalPhase_sameMapping ⟨m, false, 0⟩ _ _
  | succeeded _ => exact setFinalPhase_sameMapping ⟨m, false, 0⟩ _ _
  | starting _ _ _ => exact setPhaseMessage_sameMapping ⟨m, false, 0⟩ _ _
  | unconfirmed n e _ _ _ _ hend => exact hend.sameMapping
  | waiting key missing =>
      exact (setPublicKey_sameMapping ⟨m, false, 0⟩ key).trans (setPhaseMessage_sameMapping _ _ _)
  | confirmed key e _ _ _ _ _ _ _ hend =>
      exact ((setPublicKey_sameMapping ⟨m, false, 0⟩ key).trans
        (setPhaseMessage_sameMapping _ _ _)).trans hend.sameMapping

/-- A computed phase Ready is either confirmed by a fetched key and the acknowledgements,
or it was read and left alone because no key could be fetched. -/
theorem Evaluated.ready (h : Evaluated r tr m pod e) (hready : e.tunnel.status.phase = .ready) :
    pod.status.phase ≠ .failed ∧ pod.status.phase ≠ .succeeded ∧ isPodReady pod = true ∧
      ((m.status.phase = .ready ∧ Unconfirmed tr pod ∧
          e.tunnel.status.gatewayPublicKey = m.status.gatewayPublicKey) ∨
        (pod.status.podIP ≠ "" ∧ e.tunnel.status.gatewayPublicKey ≠ "" ∧
          Answered tr (.fetchGatewayStatus pod) (.ok e.tunnel.status.gatewayPublicKey) ∧
          (r.forwarderServer = true →
            Answered tr (.missingAcks m.key.ns m.key.name m.status.mappingRevision) []))) := by
  cases h with
  | failed _ => simp at hready
  | succeeded _ => simp at hready
  | starting _ _ _ => simp at hready
  | unconfirmed n e h₁ h₂ h₃ hu hend =>
      exact ⟨h₁, h₂, h₃, Or.inl ⟨hend.phase.symm.trans hready, hu, hend.gatewayPublicKey⟩⟩
  | waiting key missing => simp at hready
  | confirmed key e h₁ h₂ h₃ hip hkey hfetch hacks hend =>
      have hk : e.tunnel.status.gatewayPublicKey = key := by
        rw [hend.gatewayPublicKey, setPhaseMessage_gatewayPublicKey, setPublicKey_gatewayPublicKey]
      exact ⟨h₁, h₂, h₃, Or.inr ⟨hip, hk ▸ hkey, hk ▸ hfetch, hacks⟩⟩

theorem Mapped.key_eq (h : Mapped r req tr t₀ base pod allocated changed m) : m.key = base.key := by
  obtain ⟨t, ⟨-, rfl, -⟩ | ⟨-, -, -, p, -, rfl⟩, -, rfl⟩ := h.hasPort <;> rfl

theorem Mapped.gatewayPodUID (h : Mapped r req tr t₀ base pod allocated changed m) :
    m.status.gatewayPodUID = pod.uid := by
  obtain ⟨t, -, -, rfl⟩ := h.hasPort
  simp [mapped]

theorem Mapped.gatewayPodIP (h : Mapped r req tr t₀ base pod allocated changed m) :
    m.status.gatewayPodIP = pod.status.podIP := by
  obtain ⟨t, -, -, rfl⟩ := h.hasPort
  simp [mapped]

theorem Mapped.gatewayPodName (h : Mapped r req tr t₀ base pod allocated changed m) :
    m.status.gatewayPodName = gatewayResourceName base.key.name := by
  obtain ⟨t, -, -, rfl⟩ := h.hasPort
  simp [mapped]

theorem Mapped.phase (h : Mapped r req tr t₀ base pod allocated changed m) :
    m.status.phase = base.status.phase := by
  obtain ⟨t, ⟨-, rfl, -⟩ | ⟨-, -, -, p, -, rfl⟩, -, rfl⟩ := h.hasPort <;> simp [mapped]

theorem Mapped.gatewayPublicKey (h : Mapped r req tr t₀ base pod allocated changed m) :
    m.status.gatewayPublicKey =
      if base.status.gatewayPodUID = pod.uid then base.status.gatewayPublicKey else "" := by
  obtain ⟨t, ⟨-, rfl, -⟩ | ⟨-, -, -, p, -, rfl⟩, -, rfl⟩ := h.hasPort <;> simp [mapped]

theorem Mapped.mappingRevision (h : Mapped r req tr t₀ base pod allocated changed m) :
    m.status.mappingRevision =
      if changed then int64Succ base.status.mappingRevision else base.status.mappingRevision := by
  obtain ⟨t, ⟨-, rfl, -⟩ | ⟨-, -, -, p, -, rfl⟩, -, rfl⟩ := h.hasPort <;> simp [mapped]

theorem Mapped.forwarderPort (h : Mapped r req tr t₀ base pod allocated changed m) :
    (m.status.forwarderPort = base.status.forwarderPort ∧
        (base.status.forwarderPort ≠ 0 ∨ r.portAllocator = false)) ∨
      (base.status.forwarderPort = 0 ∧ r.portAllocator = true ∧
        Answered tr (.allocate (tunnelKey base.key)) (.ok m.status.forwarderPort)) := by
  obtain ⟨t, ⟨-, rfl, hp⟩ | ⟨-, hp, hr, p, ha, rfl⟩, -, rfl⟩ := h.hasPort
  · exact Or.inl ⟨by simp [mapped], hp⟩
  · exact Or.inr ⟨hp, hr, by simpa [mapped] using ha⟩

theorem Mapped.eq_of_unchanged (h : Mapped r req tr t₀ base pod allocated changed m)
    (hc : changed = false) : m = base := by
  obtain ⟨t, hport, hch, rfl⟩ := h.hasPort
  rw [hc] at hch ⊢
  obtain ⟨ha, hd⟩ := Bool.or_eq_false_iff.mp hch.symm
  rcases hport with ⟨-, rfl, -⟩ | ⟨ha', -⟩
  · simp only [mapped, recordPod_of_podDiffers _ _ _ hd]
    rfl
  · rw [ha] at ha'
    cases ha'

theorem setPhaseMessage_not_updated {phase : TunnelPhase} {message : String}
    (h : (setPhaseMessage e phase message).updated = false) :
    setPhaseMessage e phase message = e := by
  unfold setPhaseMessage at h ⊢
  split_ifs at h ⊢
  rfl

theorem setFinalPhase_not_updated {phase : TunnelPhase} {message : String}
    (h : (setFinalPhase e phase message).updated = false) : setFinalPhase e phase message = e := by
  unfold setFinalPhase at h ⊢
  split_ifs at h ⊢
  rfl

theorem setPublicKey_not_updated {key : String} (h : (setPublicKey e key).updated = false) :
    setPublicKey e key = e := by
  unfold setPublicKey at h ⊢
  split_ifs at h ⊢
  rfl

theorem EndpointUpdated.not_updated (h : EndpointUpdated r tr e e') (hu : e'.updated = false) :
    e'.tunnel = e.tunnel ∧ e.updated = false := by
  cases h with
  | unchanged _ _ _ => exact ⟨rfl, hu⟩
  | changed _ _ _ => cases hu
  | unavailable _ => exact ⟨rfl, hu⟩

theorem Evaluated.eq_of_not_updated (h : Evaluated r tr m pod e) (hu : e.updated = false) :
    e.tunnel = m := by
  cases h with
  | failed _ => rw [setFinalPhase_not_updated hu]
  | succeeded _ => rw [setFinalPhase_not_updated hu]
  | starting _ _ _ => rw [setPhaseMessage_not_updated hu]
  | unconfirmed n e _ _ _ _ hend => exact (hend.not_updated hu).1
  | waiting key missing =>
      have hphase := setPhaseMessage_not_updated hu
      rw [hphase] at hu ⊢
      rw [setPublicKey_not_updated hu]
  | confirmed key e _ _ _ _ _ _ _ hend =>
      obtain ⟨he, hu'⟩ := hend.not_updated hu
      have hphase := setPhaseMessage_not_updated hu'
      rw [hphase] at he hu'
      rw [he, setPublicKey_not_updated hu']

theorem notified_held {w : World} {u : TunnelUpdate} (hr : Reads req tr w)
    (hn : Next r req tr (.notifyUpdate u)) (hp : PatchesOnce r tr (.notifyUpdate u))
    (hdel : u.type ≠ .deleted) :
    ∃ t, Held t w ∧ Notifies r t u ∧ (u.type = .added ∨ u.type = .modified) := by
  rcases hn with ⟨_, _, -, -, -, hd, -⟩ |
    ⟨t₀, base, pod, allocated, changed, m, e, t, hc, hpers, hnot, hty⟩
  · exact absurd hd hdel
  have htype : u.type = .added ∨ u.type = .modified := by
    rcases hty with ⟨-, hty⟩ | ⟨hty, -⟩
    · split_ifs at hty
      · exact Or.inl hty
      · exact Or.inr hty
    · exact Or.inr hty
  rcases hp with hun | ⟨x, base', t', u', hans, he, hnot'⟩
  · rcases hpers with ⟨-, hans⟩ | ⟨hno, rfl⟩
    · have := hun.unpatched _ hans
      cases this
    · obtain ⟨hch, hup⟩ := Bool.or_eq_false_iff.mp hno
      have heq : e.tunnel = base :=
        (hc.evaluated.eq_of_not_updated hup).trans (hc.toMapped.eq_of_unchanged hch)
      exact ⟨e.tunnel, heq ▸ hr.active_held hun.unpatched hc.active, hnot, htype⟩
  · cases he
    exact ⟨t', (hr.patched hans).1, hnot', htype⟩

end TunnelReconciler
end TunnelOperator
