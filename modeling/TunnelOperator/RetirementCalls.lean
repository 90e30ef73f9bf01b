import TunnelOperator.ReconcileTrace

/-!
# The calls of a retirement

What `handleDeletion` and `handleTerminated` call, and in which order, for all answers.
-/

namespace TunnelOperator
open Interaction

section Combinators

variable {α β : Type} {P : Trace → Op → Prop} {tr : Trace}

theorem traces_orReturn {p : Prog (Except String α)} {f : α → Prog (Except String β)}
    {Q : α → Trace → Prop} {post : Except String β → Trace → Prop}
    (hp : p.Traces P (fun x tr => (∀ a, x = .ok a → Q a tr) ∧ ∀ e, x = .error e →
      post (.error e) tr) tr)
    (hf : ∀ a tr, Q a tr → (f a).Traces P post tr) : (orReturn p f).Traces P post tr := by
  refine hp.seq fun x tr hx => ?_
  cases x with
  | error e => exact hx.2 e rfl
  | ok a => exact hf a tr (hx.1 a rfl)

theorem perform_traces {op : Op} (h : P tr op) :
    (perform op).Traces P (fun a tr' => Answered tr' op a) tr :=
  ⟨h, answered_last tr op⟩

theorem attempt_traces {context : String} {p : Prog (Except ApiError α)}
    {post : Except ApiError α → Trace → Prop} (hp : p.Traces P post tr) :
    (attempt context p).Traces P
      (fun x tr' => tr ⊆ tr' ∧ ∀ a, x = .ok a → post (.ok a) tr') tr := by
  refine hp.extend.seq fun x tr' hx => ?_
  cases x with
  | error e => exact ⟨hx.2, fun a h => by cases h⟩
  | ok a => exact ⟨hx.2, fun b h => by cases h; exact hx.1⟩

theorem subset_append_call (tr : Trace) (c : Call Op.Ans) : tr ⊆ tr ++ [c] :=
  List.subset_append_left _ _

end Combinators

namespace TunnelReconciler

variable {r : TunnelReconciler} {req : NamespacedName} {tr : Trace}

theorem notifyTunnelUpdate_traces {t : Tunnel} {type : UpdateType}
    (h : ∀ u, u.type = type → Notifies r t u → Next r req tr (.notifyUpdate u)) :
    (r.notifyTunnelUpdate t type).Traces (Next r req) (fun _ tr' => tr ⊆ tr') tr := by
  unfold notifyTunnelUpdate
  split_ifs with h₁ h₂
  · exact List.Subset.refl _
  · exact List.Subset.refl _
  · simp only [not_or, Bool.not_eq_false] at h₁
    refine ⟨h _ rfl ⟨h₁.1, by omega, rfl, fun hd => ?_⟩, fun _ => subset_append_call _ _⟩
    simpa only [not_and, not_or] using not_and.mp h₂ hd

theorem releaseForwarderPort_traces {t₀ t : Tunnel} (h : Dropped req tr t₀ t) :
    (r.releaseForwarderPort t).Traces (Next r req)
      (fun _ tr' => tr ⊆ tr' ∧ (r.portAllocator = true →
        Answered tr' (.release (tunnelKey t.key)) ()))
      tr := by
  unfold releaseForwarderPort
  split_ifs with hp
  · exact ⟨List.Subset.refl _, fun ht => by simp [hp] at ht⟩
  · have ht : r.portAllocator = true := by simpa using hp
    refine ⟨⟨t₀, t, h, ht, rfl⟩, fun _ => ⟨⟨t₀, t, h.mono (subset_append_call _ _), ht, ?_⟩,
      fun _ => ?_⟩⟩
    · exact answered_last _ (.release _) ()
    · exact ⟨fun _ hc => subset_append_call _ _ (subset_append_call _ _ hc),
        fun _ => (answered_last tr (.release (tunnelKey t.key)) ()).mono (subset_append_call _ _)⟩

/-- A `deleteObject` that succeeds has seen its object deleted or absent. -/
theorem deleteObject_traces {P : Trace → Op → Prop} {what : String}
    {p : Prog (Except ApiError Unit)} {post : Except ApiError Unit → Trace → Prop}
    (hp : p.Traces P post tr) :
    (deleteObject what p).Traces P (fun x tr' => x = .ok () → ∃ a, Gone a ∧ post a tr') tr := by
  refine hp.seq fun a tr' ha => ?_
  rcases a with (_ | _ | _ | m) | ⟨⟩
  · exact fun _ => ⟨_, Or.inr rfl, ha⟩
  · exact fun h => by cases h
  · exact fun h => by cases h
  · exact fun h => by cases h
  · exact fun _ => ⟨_, Or.inl rfl, ha⟩

theorem deleteGatewayResources_traces {t₀ : Tunnel} (h : Retiring req tr t₀) :
    (deleteGatewayResources t₀).Traces (Next r req)
      (fun x tr' => tr ⊆ tr' ∧ (x = .ok () → GatewayDeleted tr' t₀.key)) tr := by
  refine traces_orReturn (Q := fun _ tr' => tr ⊆ tr' ∧
    ∃ a, Answered tr' (.deletePod (gatewayResourceKey t₀.key)) a ∧ Gone a)
    ((deleteObject_traces (perform_traces ⟨t₀, h, rfl⟩)).extend.mono ?_) ?_
  · rintro x tr' ⟨hx, hsub⟩
    refine ⟨?_, fun e _ => ⟨hsub, fun h => by cases h⟩⟩
    rintro ⟨⟩ rfl
    obtain ⟨a, hgone, ha⟩ := hx rfl
    exact ⟨hsub, a, ha, hgone⟩
  · rintro ⟨⟩ tr₁ ⟨hsub₁, a, ha, hga⟩
    refine (deleteObject_traces (perform_traces ⟨t₀, h.mono hsub₁, rfl⟩)).extend.mono ?_
    rintro x tr' ⟨hx, hsub⟩
    refine ⟨fun _ hc => hsub (hsub₁ hc), fun he => ?_⟩
    obtain ⟨b, hgb, hb⟩ := hx he
    exact ⟨⟨a, hsub ha, hga⟩, b, hb, hgb⟩

theorem removeFinalizer_traces {t₀ : Tunnel} (h : Retiring req tr t₀)
    (hf : finalizerName ∈ t₀.finalizers) (hg : GatewayDeleted tr t₀.key) :
    (attempt "removing finalizer: " (perform (.updateTunnel (removeFinalizer t₀)))).Traces
      (Next r req) (fun x tr' => tr ⊆ tr' ∧ ∀ t, x = .ok t → Dropped req tr' t₀ t) tr := by
  refine (attempt_traces (perform_traces (Or.inr ⟨t₀, h, hf, hg, rfl⟩))).mono ?_
  exact fun x tr' hx => ⟨hx.1, fun t ht => ⟨h.mono hx.1, Or.inr ⟨hf, hg.mono hx.1, hx.2 t ht⟩⟩⟩

theorem handleDeletion_traces {t₀ : Tunnel} (h : Retiring req tr t₀) :
    (r.handleDeletion t₀).Traces (Next r req) (fun _ tr' => tr ⊆ tr') tr := by
  unfold handleDeletion
  by_cases hf : finalizerName ∈ t₀.finalizers
  · rw [if_neg (not_not.mpr hf)]
    refine traces_orReturn (Q := fun _ tr' => tr ⊆ tr' ∧ GatewayDeleted tr' t₀.key)
      ((deleteGatewayResources_traces h).mono fun x tr' hx =>
        ⟨fun _ he => ⟨hx.1, hx.2 he⟩, fun _ _ => hx.1⟩) ?_
    rintro ⟨⟩ tr₁ ⟨hsub₁, hg₁⟩
    refine traces_orReturn (Q := fun t tr' => tr₁ ⊆ tr' ∧ Dropped req tr' t₀ t)
      ((removeFinalizer_traces (h.mono hsub₁) hf hg₁).mono fun x tr' hx =>
        ⟨fun t ht => ⟨hx.1, hx.2 t ht⟩, fun _ _ _ hc => hx.1 (hsub₁ hc)⟩) ?_
    rintro t tr₂ ⟨hsub₂, hd⟩
    refine (releaseForwarderPort_traces hd).seq ?_
    rintro ⟨⟩ tr₃ ⟨hsub₃, hrel⟩
    refine (notifyTunnelUpdate_traces fun u hu hn => Or.inl ⟨t₀, t, hd.mono hsub₃,
      hg₁.mono fun _ hc => hsub₃ (hsub₂ hc), Or.inl hf, hu, hn, hrel⟩).seq ?_
    exact fun _ tr₄ hsub₄ _ hc => hsub₄ (hsub₃ (hsub₂ (hsub₁ hc)))
  · rw [if_pos hf]
    exact (releaseForwarderPort_traces ⟨h, Or.inl ⟨hf, rfl⟩⟩).seq fun _ tr₁ h₁ => h₁.1

theorem dropFinalizer_traces {t₀ : Tunnel} (h : Retiring req tr t₀)
    (hg : GatewayDeleted tr t₀.key) :
    (dropFinalizer t₀).Traces (Next r req)
      (fun x tr' => tr ⊆ tr' ∧ ∀ t, x = .ok t → Dropped req tr' t₀ t) tr := by
  unfold dropFinalizer
  split_ifs with hf
  · exact removeFinalizer_traces h hf hg
  · refine ⟨List.Subset.refl _, ?_⟩
    rintro t ⟨⟩
    exact ⟨h, Or.inl ⟨hf, rfl⟩⟩

theorem handleTerminated_traces {t₀ : Tunnel} (h : Retiring req tr t₀)
    (hlive : t₀.deletionTimestamp = false) :
    (r.handleTerminated t₀).Traces (Next r req) (fun _ tr' => tr ⊆ tr') tr := by
  refine traces_orReturn (Q := fun _ tr' => tr ⊆ tr' ∧ GatewayDeleted tr' t₀.key)
    ((deleteGatewayResources_traces h).mono fun x tr' hx =>
      ⟨fun _ he => ⟨hx.1, hx.2 he⟩, fun _ _ => hx.1⟩) ?_
  rintro ⟨⟩ tr₁ ⟨hsub₁, hg₁⟩
  refine traces_orReturn (Q := fun t tr' => tr₁ ⊆ tr' ∧ Dropped req tr' t₀ t)
    ((dropFinalizer_traces (h.mono hsub₁) hg₁).mono fun x tr' hx =>
      ⟨fun t ht => ⟨hx.1, hx.2 t ht⟩, fun _ _ _ hc => hx.1 (hsub₁ hc)⟩) ?_
  rintro t tr₂ ⟨hsub₂, hd⟩
  refine (releaseForwarderPort_traces hd).seq ?_
  rintro ⟨⟩ tr₃ ⟨hsub₃, hrel⟩
  have hg₃ : GatewayDeleted tr₃ t₀.key := hg₁.mono fun _ hc => hsub₃ (hsub₂ hc)
  refine (notifyTunnelUpdate_traces fun u hu hn =>
    Or.inl ⟨t₀, t, hd.mono hsub₃, hg₃, Or.inr hlive, hu, hn, hrel⟩).seq fun _ tr₄ hsub₄ => ?_
  refine ⟨⟨t₀, t, (hd.mono hsub₃).mono hsub₄, hg₃.mono hsub₄, hlive, rfl⟩, fun a => ?_⟩
  have hsub : tr ⊆ tr₄ ++ [⟨.deleteTunnel t.key, a⟩] := fun _ hc =>
    subset_append_call _ _ (hsub₄ (hsub₃ (hsub₂ (hsub₁ hc))))
  rcases a with e | ⟨⟩ <;> exact hsub

end TunnelReconciler
end TunnelOperator
