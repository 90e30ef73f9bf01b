import TunnelOperator.RetirementCalls

/-!
# The calls of a reconciliation

`reconcile_traces`: every call `Reconcile` makes is admitted by `Next`, and its result
is described by `Returns`. One lemma per function of the source, in the order in which
they are called.
-/

namespace TunnelOperator
open Interaction

namespace TunnelReconciler

variable {r : TunnelReconciler} {req : NamespacedName} {tr : Trace}

theorem ensureFinalizer_traces {t₀ : Tunnel} (hread : Answered tr (.getTunnel req) (.ok t₀))
    (hlive : t₀.deletionTimestamp = false) (hphase : t₀.status.phase ≠ .terminated)
    (hvalid : validateTunnelTarget t₀.spec.target = .ok ()) :
    (ensureFinalizer t₀).Traces (Next r req)
      (fun x tr' => tr ⊆ tr' ∧ ∀ base, x = .ok base → Active req tr' t₀ base) tr := by
  unfold ensureFinalizer
  split_ifs with hf
  · refine ⟨List.Subset.refl _, ?_⟩
    rintro base ⟨⟩
    exact ⟨hread, hlive, hphase, hvalid, Or.inl ⟨hf, rfl⟩⟩
  · refine (attempt_traces (perform_traces
      (Or.inl ⟨t₀, hread, hlive, hphase, hvalid, hf, rfl⟩))).mono fun x tr' hx =>
      ⟨hx.1, fun t ht => ?_⟩
    exact ⟨hx.1 hread, hlive, hphase, hvalid, Or.inr ⟨hf, hx.2 t ht⟩⟩

theorem ensureGatewayPod_traces {t₀ base : Tunnel} (h : Active req tr t₀ base) :
    (r.ensureGatewayPod base).Traces (Next r req)
      (fun x tr' => tr ⊆ tr' ∧ ∀ pod, x = .ok pod → HasPod r tr' base pod) tr := by
  refine ⟨⟨t₀, base, h, rfl⟩, fun a => ?_⟩
  have hsub := subset_append_call tr ⟨.getPod (gatewayResourceKey base.key), a⟩
  rcases a with (_ | _ | _ | m) | pod
  · refine (attempt_traces (perform_traces
      ⟨t₀, base, h.mono hsub, rfl, answered_last _ _ _⟩)).mono fun x tr' hx => ?_
    exact ⟨fun _ hc => hx.1 (hsub hc), fun pod hp =>
      Or.inr ⟨hx.1 (answered_last tr _ _), hx.2 pod hp⟩⟩
  · exact ⟨hsub, fun pod hp => by cases hp⟩
  · exact ⟨hsub, fun pod hp => by cases hp⟩
  · exact ⟨hsub, fun pod hp => by cases hp⟩
  · refine ⟨hsub, ?_⟩
    rintro pod' ⟨⟩
    exact Or.inl (answered_last _ _ _)

theorem ensureNetworkPolicy_traces {t₀ base : Tunnel} (h : Active req tr t₀ base) :
    (ensureNetworkPolicy base).Traces (Next r req)
      (fun x tr' => tr ⊆ tr' ∧ (x = .ok () → HasPolicy tr' base)) tr := by
  refine ⟨⟨t₀, base, h, rfl⟩, fun a => ?_⟩
  have hsub := subset_append_call tr ⟨.getNetworkPolicy (gatewayResourceKey base.key), a⟩
  rcases a with (_ | _ | _ | m) | existing
  · refine (attempt_traces (perform_traces ⟨t₀, base, h.mono hsub, rfl⟩)).mono fun x tr' hx => ?_
    exact ⟨fun _ hc => hx.1 (hsub hc), fun hok => Or.inl (hx.2 () hok)⟩
  · exact ⟨hsub, fun hp => by cases hp⟩
  · exact ⟨hsub, fun hp => by cases hp⟩
  · exact ⟨hsub, fun hp => by cases hp⟩
  · have hans := answered_last tr (.getNetworkPolicy (gatewayResourceKey base.key)) (.ok existing)
    change Program.Traces _ _ (if mutatePolicy base existing = existing then _ else _) _
    split_ifs with hm
    · exact ⟨hsub, fun _ => Or.inr ⟨existing, hans, Or.inl hm⟩⟩
    · refine (attempt_traces (perform_traces
        ⟨t₀, base, existing, h.mono hsub, hans, rfl⟩)).mono fun x tr' hx => ?_
      exact ⟨fun _ hc => hx.1 (hsub hc), fun hok =>
        Or.inr ⟨existing, hx.1 hans, Or.inr (hx.2 () hok)⟩⟩

theorem resolveForwarderVIP_traces :
    r.resolveForwarderVIP.Traces (Next r req) (fun x tr' => tr ⊆ tr' ∧
      (∀ vip, x = .ok vip → Vip r tr' vip) ∧ ∀ err, x = .error err → VipUnavailable r tr') tr := by
  unfold resolveForwarderVIP
  split_ifs with hvip hname
  · refine ⟨List.Subset.refl _, ?_, fun err h => by cases h⟩
    rintro vip ⟨⟩
    exact ⟨hvip, Or.inl rfl⟩
  · exact ⟨List.Subset.refl _, fun vip h => (by cases h),
      fun _ _ => ⟨not_not.mp hvip, Or.inl hname⟩⟩
  · refine ⟨rfl, fun a => ?_⟩
    have hans := answered_last tr (.getService r.forwarderServiceKey) a
    have hsub := subset_append_call tr ⟨.getService r.forwarderServiceKey, a⟩
    cases a with
    | error e => exact ⟨hsub, fun vip h => (by cases h),
        fun _ _ => ⟨not_not.mp hvip, Or.inr (Or.inl ⟨e, hans⟩)⟩⟩
    | ok svc =>
        cases hf : svc.ingressIPs.find? (· ≠ "") with
        | none =>
            simp only [Program.pure_bind, hf]
            exact ⟨hsub, fun vip h => (by cases h),
              fun _ _ => ⟨not_not.mp hvip, Or.inr (Or.inr ⟨svc, hans, hf⟩)⟩⟩
        | some ip =>
            simp only [Program.pure_bind, hf]
            refine ⟨hsub, ?_, fun err h => by cases h⟩
            rintro vip ⟨⟩
            exact ⟨by simpa using List.find?_some hf, Or.inr ⟨not_not.mp hvip, svc, hans, hf⟩⟩

theorem updateForwarderEndpoint_traces (e : Evaluation) :
    (r.updateForwarderEndpoint e).Traces (Next r req)
      (fun e' tr' => tr ⊆ tr' ∧ EndpointUpdated r tr' e e') tr := by
  refine resolveForwarderVIP_traces.seq fun x tr' hx => ?_
  cases x with
  | error err => exact ⟨hx.1, .unavailable (hx.2.2 err rfl)⟩
  | ok vip =>
      have hv := hx.2.1 vip rfl
      change Program.Traces _ _ (if vip ≠ "" ∧ _ ≠ vipEndpoint e.tunnel vip then _ else _) _
      split_ifs with hc
      · exact ⟨hx.1, .changed vip hv hc.2⟩
      · exact ⟨hx.1, .unchanged vip hv (not_not.mp (not_and.mp hc hv.1))⟩

theorem missingAcks_traces {t₀ base m t : Tunnel} {pod : Pod} {allocated changed : Bool}
    (h : Mapped r req tr t₀ base pod allocated changed m) (hkey : t.key = m.key)
    (hrev : t.status.mappingRevision = m.status.mappingRevision) :
    (r.missingAcks t).Traces (Next r req) (fun missing tr' => tr ⊆ tr' ∧
      (r.forwarderServer = true →
        Answered tr' (.missingAcks m.key.ns m.key.name m.status.mappingRevision) missing) ∧
      (r.forwarderServer = false → missing = [])) tr := by
  unfold missingAcks
  rw [hkey, hrev]
  split_ifs with hs
  · refine ⟨⟨t₀, base, pod, allocated, changed, m, h, rfl, rfl, rfl⟩, fun missing => ?_⟩
    exact ⟨subset_append_call _ _, fun _ => answered_last _ _ _, fun hf => by simp [hs] at hf⟩
  · exact ⟨List.Subset.refl _, fun ht => absurd ht hs, fun _ => rfl⟩

@[simp] theorem setPublicKey_key (e : Evaluation) (key : String) :
    (setPublicKey e key).tunnel.key = e.tunnel.key := by
  unfold setPublicKey; split_ifs <;> rfl

@[simp] theorem setPublicKey_mappingRevision (e : Evaluation) (key : String) :
    (setPublicKey e key).tunnel.status.mappingRevision = e.tunnel.status.mappingRevision := by
  unfold setPublicKey; split_ifs <;> rfl

theorem handleReadyPod_traces {t₀ base m : Tunnel} {pod : Pod} {allocated changed : Bool}
    (h : Mapped r req tr t₀ base pod allocated changed m) (hnf : pod.status.phase ≠ .failed)
    (hns : pod.status.phase ≠ .succeeded) (hready : isPodReady pod = true) :
    (r.handleReadyPod m pod).Traces (Next r req)
      (fun e tr' => tr ⊆ tr' ∧ Evaluated r tr' m pod e) tr := by
  have hunconfirmed : ∀ (n : ℕ) (tr' : Trace), tr ⊆ tr' → Unconfirmed tr' pod →
      (r.updateForwarderEndpoint ⟨m, false, n⟩).Traces (Next r req)
        (fun e tr' => tr ⊆ tr' ∧ Evaluated r tr' m pod e) tr' := by
    intro n tr' hsub hu
    refine (updateForwarderEndpoint_traces _).mono fun e tr'' he => ⟨fun _ hc => he.1 (hsub hc), ?_⟩
    exact .unconfirmed n e hnf hns hready (hu.mono he.1) he.2
  unfold handleReadyPod
  split_ifs with hip
  · exact hunconfirmed 0 tr (List.Subset.refl _) (Or.inl hip)
  · refine ⟨⟨t₀, base, h.active, h.hasPod, hip⟩, fun a => ?_⟩
    have hans := answered_last tr (.fetchGatewayStatus pod) a
    have hsub := subset_append_call tr ⟨.fetchGatewayStatus pod, a⟩
    cases a with
    | error err => exact hunconfirmed 2 _ hsub (Or.inr (Or.inl ⟨err, hans⟩))
    | ok key =>
        simp only [Program.pure_bind]
        split_ifs with hkey
        · exact hunconfirmed 0 _ hsub (Or.inr (Or.inr (hkey ▸ hans)))
        · refine (missingAcks_traces (h.mono hsub) (setPublicKey_key _ _)
            (setPublicKey_mappingRevision _ _)).seq ?_
          rintro missing tr₁ ⟨hsub₁, hserver, hnone⟩
          split_ifs with hm
          · have hs : r.forwarderServer = true := by
              by_contra hs
              exact hm (hnone (by simpa using hs))
            exact ⟨fun _ hc => hsub₁ (hsub hc), .waiting key missing hnf hns hready hip hkey
              (hsub₁ hans) hs
              (hserver hs) hm⟩
          · refine (updateForwarderEndpoint_traces _).mono fun e tr₂ he => ?_
            rw [not_not] at hm
            subst hm
            exact ⟨fun _ hc => he.1 (hsub₁ (hsub hc)), .confirmed key e hnf hns hready hip hkey
              (he.1 (hsub₁ hans)) (fun hs => he.1 (hserver hs)) he.2⟩

theorem evaluatePodPhase_traces {t₀ base m : Tunnel} {pod : Pod} {allocated changed : Bool}
    (h : Mapped r req tr t₀ base pod allocated changed m) :
    (r.evaluatePodPhase m pod).Traces (Next r req)
      (fun e tr' => tr ⊆ tr' ∧ Computed r req tr' t₀ base pod allocated changed m e) tr := by
  unfold evaluatePodPhase
  split_ifs with hf hs hready
  · exact ⟨List.Subset.refl _, h, .failed hf⟩
  · exact ⟨List.Subset.refl _, h, .succeeded hs⟩
  · exact (handleReadyPod_traces h hf hs hready).mono fun e tr' he => ⟨he.1, h.mono he.1, he.2⟩
  · exact ⟨List.Subset.refl _, h, .starting hf hs (by simpa using hready)⟩

theorem assignPort_traces {t₀ base : Tunnel} {pod : Pod} (h : Active req tr t₀ base)
    (hpod : HasPod r tr base pod) :
    (r.assignPort base).Traces (Next r req)
      (fun x tr' => tr ⊆ tr' ∧ ∀ t allocated, x = .ok (t, allocated) →
        HasPort r tr' base t allocated)
      tr := by
  unfold assignPort
  split_ifs with hp
  · refine ⟨⟨t₀, base, pod, h, hpod, hp.1, hp.2, rfl⟩, fun a => ?_⟩
    have hsub := subset_append_call tr ⟨.allocate (tunnelKey base.key), a⟩
    cases a with
    | error e => exact ⟨hsub, fun t allocated h => by cases h⟩
    | ok p =>
        have hans := answered_last tr (.allocate (tunnelKey base.key)) (.ok p)
        refine ⟨⟨t₀, base, p, h.mono hsub, hp.1, hp.2, hans⟩, fun _ => ?_⟩
        refine ⟨fun _ hc => subset_append_call _ _ (hsub hc), ?_⟩
        rintro t allocated ⟨⟩
        exact Or.inr ⟨rfl, hp.1, hp.2, p, hans.mono (subset_append_call _ _), rfl⟩
  · refine ⟨List.Subset.refl _, ?_⟩
    rintro t allocated ⟨⟩
    refine Or.inl ⟨rfl, rfl, ?_⟩
    rw [not_and_or] at hp
    exact hp.imp_right fun hr => by simpa using hr

section Publish

variable {t₀ base m : Tunnel} {pod : Pod} {allocated changed : Bool} {e : Evaluation}

theorem persistStatus_traces (h : Computed r req tr t₀ base pod allocated changed m e) :
    (r.persistStatus e base changed (if allocated then .added else .modified)).Traces (Next r req)
      (fun x tr' => tr ⊆ tr' ∧ ∀ t, x = .ok t → Persisted tr' base changed e t) tr := by
  unfold persistStatus
  by_cases hc : (changed || e.updated) = true
  · rw [if_pos hc]
    refine traces_orReturn (Q := fun t tr' => tr ⊆ tr' ∧ Persisted tr' base changed e t)
      ((attempt_traces (perform_traces ⟨t₀, pod, allocated, changed, m, e, h, hc, rfl⟩)).mono
        fun x tr' hx => ⟨fun t ht => ⟨hx.1, Or.inl ⟨hc, hx.2 t ht⟩⟩,
          fun _ _ => ⟨hx.1, fun t ht => by cases ht⟩⟩) ?_
    rintro t tr₁ ⟨hsub₁, hp⟩
    have hret : ∀ tr', tr₁ ⊆ tr' → tr ⊆ tr' ∧ ∀ t', (.ok t : Except String Tunnel) = .ok t' →
        Persisted tr' base changed e t' := by
      intro tr' hsub
      refine ⟨fun _ hc => hsub (hsub₁ hc), ?_⟩
      rintro t' ⟨⟩
      exact hp.mono hsub
    by_cases hch : changed = true
    · simp only [if_pos hch]
      refine (notifyTunnelUpdate_traces fun u hu hn => Or.inr ⟨t₀, base, pod, allocated, changed, m,
        e, t, h.mono hsub₁, hp, hn, Or.inl ⟨hch, hu⟩⟩).seq fun _ tr₂ hsub₂ => ?_
      exact hret tr₂ hsub₂
    · simp only [if_neg hch]
      exact hret tr₁ (List.Subset.refl _)
  · rw [if_neg hc]
    refine ⟨List.Subset.refl _, ?_⟩
    rintro t ⟨⟩
    exact Or.inr ⟨by simpa using hc, rfl⟩

theorem republish_traces {t : Tunnel} (h : Computed r req tr t₀ base pod allocated changed m e)
    (hp : Persisted tr base changed e t) :
    (r.republish t).Traces (Next r req) (fun _ tr' => tr ⊆ tr') tr := by
  unfold republish
  split_ifs with hc
  · exact notifyTunnelUpdate_traces fun u hu hn => Or.inr ⟨t₀, base, pod, allocated, changed, m,
      e, t, h, hp, hn, Or.inr ⟨hu, hc.2.2.2⟩⟩
  · exact List.Subset.refl _

end Publish

theorem reconcileStatus_traces {t₀ base : Tunnel} {pod : Pod} (h : Active req tr t₀ base)
    (hpod : HasPod r tr base pod) (hpolicy : HasPolicy tr base) :
    (r.reconcileStatus base pod).Traces (Next r req) (Returns r req) tr := by
  have herr : ∀ err tr', tr ⊆ tr' → Returns r req (.error err) tr' := fun err tr' hsub =>
    Or.inr (Or.inr ⟨t₀, hsub h.read, h.notDeleting, h.notTerminated, Or.inl ⟨err, rfl⟩⟩)
  refine traces_orReturn (Q := fun x tr' => tr ⊆ tr' ∧ HasPort r tr' base x.1 x.2)
    ((assignPort_traces h hpod).mono fun x tr' hx =>
      ⟨fun a ha => ⟨hx.1, hx.2 a.1 a.2 ha⟩, fun err _ => herr err tr' hx.1⟩) ?_
  rintro ⟨t, allocated⟩ tr₁ ⟨hsub₁, hport⟩
  have hm : Mapped r req tr₁ t₀ base pod allocated (mappingChanged base t pod allocated)
      (mapped base t pod (mappingChanged base t pod allocated)) :=
    ⟨h.mono hsub₁, hpod.mono hsub₁, hpolicy.mono hsub₁, t, hport, rfl, rfl⟩
  refine (evaluatePodPhase_traces hm).seq ?_
  rintro e tr₂ ⟨hsub₂, hc⟩
  refine traces_orReturn (Q := fun t' tr' => tr₂ ⊆ tr' ∧
      Persisted tr' base (mappingChanged base t pod allocated) e t')
    ((persistStatus_traces hc).mono fun x tr' hx => ⟨fun t' ht => ⟨hx.1, hx.2 t' ht⟩,
      fun err _ => herr err tr' fun _ hc => hx.1 (hsub₂ (hsub₁ hc))⟩) ?_
  rintro t' tr₃ ⟨hsub₃, hp⟩
  refine (republish_traces (hc.mono hsub₃) hp).seq fun _ tr₄ hsub₄ => ?_
  have hc₄ := (hc.mono hsub₃).mono hsub₄
  exact Or.inr (Or.inr ⟨t₀, hc₄.active.read, h.notDeleting, h.notTerminated,
    Or.inr ⟨base, pod, allocated, _, _, e, t', hc₄, hp.mono hsub₄, rfl⟩⟩)

theorem reconcileGateway_traces {t₀ base : Tunnel} (h : Active req tr t₀ base) :
    (r.reconcileGateway base).Traces (Next r req) (Returns r req) tr := by
  have herr : ∀ err tr', tr ⊆ tr' → Returns r req (.error err) tr' := fun err tr' hsub =>
    Or.inr (Or.inr ⟨t₀, hsub h.read, h.notDeleting, h.notTerminated, Or.inl ⟨err, rfl⟩⟩)
  refine traces_orReturn (Q := fun pod tr' => tr ⊆ tr' ∧ HasPod r tr' base pod)
    ((ensureGatewayPod_traces h).mono fun x tr' hx =>
      ⟨fun pod hpod => ⟨hx.1, hx.2 pod hpod⟩, fun err _ => herr err tr' hx.1⟩) ?_
  rintro pod tr₁ ⟨hsub₁, hpod⟩
  refine traces_orReturn (Q := fun _ tr' => tr₁ ⊆ tr' ∧ HasPolicy tr' base)
    ((ensureNetworkPolicy_traces (h.mono hsub₁)).mono fun x tr' hx =>
      ⟨fun _ hok => ⟨hx.1, hx.2 hok⟩, fun err _ => herr err tr' fun _ hc => hx.1 (hsub₁ hc)⟩) ?_
  rintro ⟨⟩ tr₂ ⟨hsub₂, hpolicy⟩
  exact reconcileStatus_traces (h.mono fun _ hc => hsub₂ (hsub₁ hc)) (hpod.mono hsub₂) hpolicy

theorem done_traces {p : Prog (Except String Unit)} {R : Trace → Prop}
    (hp : p.Traces (Next r req) (fun _ tr' => R tr') tr) :
    (done p).Traces (Next r req) (fun _ tr' => R tr') tr :=
  traces_orReturn (Q := fun _ tr' => R tr') (hp.mono fun _ _ hx => ⟨fun _ _ => hx, fun _ _ => hx⟩)
    fun _ _ hx => hx

/-- Whatever the API server, the gateway, the allocator and the forwarder server answer,
each call of `Reconcile` is one that `Next` lets follow the calls before it. -/
theorem reconcile_traces (r : TunnelReconciler) (req : NamespacedName) :
    (r.reconcile req).Traces (Next r req) (Returns r req) [] := by
  refine ⟨⟨rfl, rfl⟩, fun a => ?_⟩
  have hans := answered_last [] (.getTunnel req) a
  cases a with
  | error e =>
      cases e with
      | notFound => exact (Or.inl ⟨_, hans, Or.inl rfl⟩ : Returns r req (.ok {}) _)
      | _ => exact (Or.inl ⟨_, hans, Or.inr ⟨_, rfl⟩⟩ : Returns r req (.error _) _)
  | ok t₀ =>
      have hretired : ∀ {p : Prog (Except String Unit)}, Retiring req _ t₀ →
          p.Traces (Next r req) (fun _ tr' => [] ++ [⟨.getTunnel req, .ok t₀⟩] ⊆ tr')
            ([] ++ [⟨.getTunnel req, .ok t₀⟩]) → (done p).Traces (Next r req) (Returns r req) _ :=
        fun hr hp => (done_traces hp).mono fun _ _ hsub => Or.inr (Or.inl ⟨t₀, hr.mono hsub⟩)
      simp only [Program.pure_bind]
      split_ifs with hdel hterm
      · have hr : Retiring req _ t₀ := ⟨hans, Or.inl hdel⟩
        exact hretired hr (handleDeletion_traces hr)
      · have hr : Retiring req _ t₀ := ⟨hans, Or.inr hterm⟩
        exact hretired hr (handleTerminated_traces hr (by simpa using hdel))
      · have hlive : t₀.deletionTimestamp = false := by simpa using hdel
        have herr : ∀ err tr', Answered tr' (.getTunnel req) (.ok t₀) →
            Returns r req (.error err) tr' := fun err tr' hread =>
          Or.inr (Or.inr ⟨t₀, hread, hlive, hterm, Or.inl ⟨err, rfl⟩⟩)
        cases hv : validateTunnelTarget t₀.spec.target with
        | error err => exact herr _ _ hans
        | ok u =>
            refine traces_orReturn (Q := fun base tr' => Active req tr' t₀ base)
              ((ensureFinalizer_traces hans hlive hterm hv).mono fun x tr' hx =>
                ⟨hx.2, fun err _ => herr err tr' (hx.1 hans)⟩) fun base tr' h => ?_
            exact reconcileGateway_traces h

end TunnelReconciler
end TunnelOperator
