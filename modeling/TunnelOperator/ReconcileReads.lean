import TunnelOperator.ReconcilePatches
import TunnelOperator.StoredTunnel

/-!
# What a reconciliation knows about the store

`Reads` is the assertion that a running reconciliation keeps about the Tunnel it has read,
whatever the environment does meanwhile: until it patches the status itself, the stored
object is the one it read or a fresh one, and once it owns the finalizer the object stays.
-/

namespace TunnelOperator
open Interaction

theorem answered_append {tr : Trace} {op op' : Op} {a : op.Ans} {a' : op'.Ans}
    (h : Answered (tr ++ [⟨op', a'⟩]) op a) : Answered tr op a ∨ op = op' ∧ HEq a a' := by
  rcases List.mem_append.mp h with hold | hlast
  · exact Or.inl hold
  · exact Or.inr (Call.mk.inj (List.mem_singleton.mp hlast))

theorem Unpatched.of_append {tr : Trace} {c : Call Op.Ans} (h : Unpatched (tr ++ [c])) :
    Unpatched tr :=
  fun c' hc => h c' (List.mem_append_left _ hc)

namespace TunnelReconciler

variable {r : TunnelReconciler} {req : NamespacedName} {tr : Trace}

theorem setPhaseMessage_eq (e : Evaluation) (phase : TunnelPhase) (message : String) :
    (setPhaseMessage e phase message).tunnel =
      { e.tunnel with status := (setPhaseMessage e phase message).tunnel.status } := by
  unfold setPhaseMessage; split_ifs <;> rfl

theorem setFinalPhase_eq (e : Evaluation) (phase : TunnelPhase) (message : String) :
    (setFinalPhase e phase message).tunnel =
      { e.tunnel with status := (setFinalPhase e phase message).tunnel.status } := by
  unfold setFinalPhase; split_ifs <;> rfl

theorem setPublicKey_eq (e : Evaluation) (key : String) :
    (setPublicKey e key).tunnel =
      { e.tunnel with status := (setPublicKey e key).tunnel.status } := by
  unfold setPublicKey; split_ifs <;> rfl

theorem EndpointUpdated.eq {e e' : Evaluation} (h : EndpointUpdated r tr e e') :
    e'.tunnel = { e.tunnel with status := e'.tunnel.status } := by
  cases h <;> rfl

theorem Evaluated.eq {m : Tunnel} {pod : Pod} {e : Evaluation} (h : Evaluated r tr m pod e) :
    e.tunnel = { m with status := e.tunnel.status } := by
  cases h with
  | failed _ => exact setFinalPhase_eq _ _ _
  | succeeded _ => exact setFinalPhase_eq _ _ _
  | starting _ _ _ => exact setPhaseMessage_eq _ _ _
  | unconfirmed n e _ _ _ _ hend => exact hend.eq
  | waiting key missing =>
      rw [setPhaseMessage_eq, setPublicKey_eq]
  | confirmed key e _ _ _ _ _ _ _ hend =>
      rw [hend.eq, setPhaseMessage_eq, setPublicKey_eq]

theorem Computed.eq {t₀ base m : Tunnel} {pod : Pod} {allocated changed : Bool} {e : Evaluation}
    (h : Computed r req tr t₀ base pod allocated changed m e) :
    e.tunnel = { base with status := e.tunnel.status } := by
  obtain ⟨t, hport, -, rfl⟩ := h.hasPort
  rw [h.evaluated.eq]
  rcases hport with ⟨-, rfl, -⟩ | ⟨-, -, -, p, -, rfl⟩ <;> rfl

theorem Computed.key_eq {t₀ base m : Tunnel} {pod : Pod} {allocated changed : Bool} {e : Evaluation}
    (h : Computed r req tr t₀ base pod allocated changed m e) : e.tunnel.key = base.key := by
  rw [h.eq]

end TunnelReconciler

def Op.tellsTunnel : Op → Bool
  | .getTunnel _ => true
  | .updateTunnel _ => true
  | .patchStatus _ _ => true
  | _ => false

structure Reads (req : NamespacedName) (tr : Trace) (w : World) : Prop where
  unique : ∀ {t t'}, Answered tr (.getTunnel req) (.ok t) → Answered tr (.getTunnel req) (.ok t') →
    t' = t
  key : ∀ {t₀}, Answered tr (.getTunnel req) (.ok t₀) → t₀.key = req
  seen : Unpatched tr → ∀ {t₀}, Answered tr (.getTunnel req) (.ok t₀) → Seen t₀ w
  held : Unpatched tr → ∀ {t₀}, Answered tr (.getTunnel req) (.ok t₀) →
    finalizerName ∈ t₀.finalizers →
    t₀.deletionTimestamp = false → t₀.status.phase ≠ .terminated → Held t₀ w
  origin : ∀ {x t}, Answered tr (.updateTunnel x) (.ok t) →
    t = { x with resourceVersion := t.resourceVersion } ∧
      ∃ t₀, Answered tr (.getTunnel req) (.ok t₀) ∧ x = { t₀ with finalizers := x.finalizers } ∧
        (finalizerName ∈ x.finalizers → t₀.deletionTimestamp = false ∧
          t₀.status.phase ≠ .terminated)
  added : Unpatched tr → ∀ {x t}, Answered tr (.updateTunnel x) (.ok t) →
    finalizerName ∈ x.finalizers → Held t w
  patched : ∀ {x base t}, Answered tr (.patchStatus x base) (.ok t) →
    Held t w ∧ t.status = x.status ∧ t.key = base.key ∧ t.uid = base.uid

namespace Reads

variable {r : TunnelReconciler} {req : NamespacedName} {tr : Trace} {w w' : World}

theorem nil (req : NamespacedName) (w : World) : Reads req [] w := by
  constructor <;> simp [Answered]

theorem evolves (h : Reads req tr w) (he : w.Evolves w') : Reads req tr w' where
  unique := h.unique
  key := h.key
  seen := fun hu _ ht => (h.seen hu ht).follows he.toFollows
  held := fun hu _ ht hf hd hp => (h.held hu ht hf hd hp).evolves he
  origin := h.origin
  added := fun hu _ _ ht hf => (h.added hu ht hf).evolves he
  patched := fun ht => ⟨(h.patched ht).1.evolves he, (h.patched ht).2⟩

theorem old {op op' : Op} {a : op.Ans} {a' : op'.Ans} (hop : op' ≠ op)
    (h : Answered (tr ++ [⟨op', a'⟩]) op a) : Answered tr op a :=
  (answered_append h).resolve_right fun he => hop he.1.symm

theorem extend (h : Reads req tr w) {op : Op} (hop : op.tellsTunnel = false) (a : op.Ans) :
    Reads req (tr ++ [⟨op, a⟩]) w := by
  have hold : ∀ {op' : Op} {a' : op'.Ans}, op'.tellsTunnel = true →
      Answered (tr ++ [⟨op, a⟩]) op' a' → Answered tr op' a' := fun ho ha =>
    old (fun he => by rw [he, ho] at hop; cases hop) ha
  exact
    { unique := fun ht ht' => h.unique (hold rfl ht) (hold rfl ht')
      key := fun ht => h.key (hold rfl ht)
      seen := fun hu _ ht => h.seen hu.of_append (hold rfl ht)
      held := fun hu _ ht => h.held hu.of_append (hold rfl ht)
      origin := fun ht => by
        obtain ⟨h₁, t₀, ht₀, h₂⟩ := h.origin (hold rfl ht)
        exact ⟨h₁, t₀, ht₀.mono (subset_append_call _ _), h₂⟩
      added := fun hu _ _ ht => h.added hu.of_append (hold rfl ht)
      patched := fun ht => h.patched (hold rfl ht) }

theorem getTunnel (hw : w.WF) {c : Choice} {ans : Except ApiError Tunnel}
    (he : World.exec (.getTunnel req) c w = (ans, w')) :
    Reads req ([] ++ [⟨.getTunnel req, ans⟩]) w' := by
  obtain ⟨rfl, rfl⟩ : World.getResult c (w.tunnels.lookup req) = ans ∧ w = w' := Prod.mk.inj he
  have hread : ∀ {t}, Answered ([] ++ [⟨.getTunnel req, World.getResult c (w.tunnels.lookup req)⟩])
      (.getTunnel req) (.ok t) → w.tunnels.lookup req = some t := by
    intro t ht
    rcases answered_append ht with ht | ⟨-, ht⟩
    · cases ht
    · exact World.getResult_ok (eq_of_heq ht).symm
  have hnone : ∀ {op : Op} {a : op.Ans}, op ≠ .getTunnel req →
      ¬ Answered ([] ++ [⟨.getTunnel req, World.getResult c (w.tunnels.lookup req)⟩]) op a := by
    intro op a hop ha
    cases old hop.symm ha
  exact
    { unique := fun ht ht' => by
        have h := (hread ht).symm.trans (hread ht')
        exact (Option.some.inj h).symm
      key := fun ht => hw.key (hread ht)
      seen := fun _ _ ht => seen_of_lookup hw (hread ht)
      held := fun _ _ ht hf _ _ => held_of_lookup hw (hread ht) hf
      origin := fun ht => absurd ht (hnone (by simp))
      added := fun _ _ _ ht => absurd ht (hnone (by simp))
      patched := fun ht => absurd ht (hnone (by simp)) }

theorem of_retiring (h : Reads req tr w) {t₀ : Tunnel} (hr : TunnelReconciler.Retiring req tr t₀)
    (hu : Unpatched tr) (hf : w.Follows w') : Reads req tr w' := by
  have hno : ∀ {t₁}, Answered tr (.getTunnel req) (.ok t₁) → t₁.deletionTimestamp = false →
      t₁.status.phase ≠ .terminated → False := by
    intro t₁ ht₁ hd hp
    obtain rfl := h.unique hr.read ht₁
    rcases hr.retired with hd' | hp'
    · rw [hd] at hd'; cases hd'
    · exact hp hp'
  exact
    { unique := h.unique
      key := h.key
      seen := fun hu _ ht => (h.seen hu ht).follows hf
      held := fun _ _ ht _ hd hp => (hno ht hd hp).elim
      origin := h.origin
      added := fun _ _ _ ht hfin => by
        obtain ⟨-, t₁, ht₁, -, hact⟩ := h.origin ht
        exact (hno ht₁ (hact hfin).1 (hact hfin).2).elim
      patched := fun ht => by
        have := hu _ ht
        cases this }

theorem extend_update (h : Reads req tr w) {t₀ : Tunnel} {fs : List String}
    {ans : Except ApiError Tunnel} (ht₀ : Answered tr (.getTunnel req) (.ok t₀))
    (hactive : finalizerName ∈ fs → t₀.deletionTimestamp = false ∧ t₀.status.phase ≠ .terminated)
    (hans : ∀ t, ans = .ok t →
      t = { t₀ with finalizers := fs, resourceVersion := t.resourceVersion } ∧
      (finalizerName ∈ fs → Held t w)) :
    Reads req (tr ++ [⟨.updateTunnel { t₀ with finalizers := fs }, ans⟩]) w where
  unique := fun ht ht' => h.unique (old (by simp) ht) (old (by simp) ht')
  key := fun ht => h.key (old (by simp) ht)
  seen := fun hu _ ht => h.seen hu.of_append (old (by simp) ht)
  held := fun hu _ ht => h.held hu.of_append (old (by simp) ht)
  origin := fun {x t} ht => by
    rcases answered_append ht with ht | ⟨⟨⟩, rfl⟩
    · obtain ⟨h₁, t₁, ht₁, h₂⟩ := h.origin ht
      exact ⟨h₁, t₁, ht₁.mono (subset_append_call _ _), h₂⟩
    · exact ⟨(hans t rfl).1, t₀, ht₀.mono (subset_append_call _ _), rfl, hactive⟩
  added := fun hu {x t} ht hf => by
    rcases answered_append ht with ht | ⟨⟨⟩, rfl⟩
    · exact h.added hu.of_append ht hf
    · exact (hans t rfl).2 hf
  patched := fun ht => h.patched (old (by simp) ht)

theorem updateTunnel (hw : w.WF) (h : Reads req tr w) (hu : Unpatched tr) {x : Tunnel}
    (hn : TunnelReconciler.Next r req tr (.updateTunnel x)) {c : Choice}
    {ans : Except ApiError Tunnel} (he : World.exec (.updateTunnel x) c w = (ans, w')) :
    Reads req (tr ++ [⟨.updateTunnel x, ans⟩]) w' := by
  rcases hn with ⟨t₀, ht₀, hd, hp, -, -, rfl⟩ | ⟨t₀, hr, -, -, rfl⟩
  · have hmem : finalizerName ∈ (TunnelReconciler.addFinalizer t₀).finalizers := by
      simp [TunnelReconciler.addFinalizer]
    have hev : w.Evolves w' := by
      have := World.exec_evolves hw (o := .updateTunnel (TunnelReconciler.addFinalizer t₀)) rfl
        (fun x hx => by cases hx; exact hmem) c
      rwa [he] at this
    refine extend_update (h.evolves hev) ht₀ (fun _ => ⟨hd, hp⟩) fun t ht => ?_
    rcases exec_updateTunnel (h.seen hu ht₀) he with ⟨-, e, hans⟩ | ⟨-, rfl, ⟨e, hans⟩ | hans⟩
    · rw [ht] at hans; cases hans
    · rw [ht] at hans; cases hans
    · rw [ht] at hans
      cases hans
      exact ⟨rfl, fun _ => storeTunnel_held hmem⟩
  · have hmem : finalizerName ∉ (TunnelReconciler.removeFinalizer t₀).finalizers := by
      simp [TunnelReconciler.removeFinalizer]
    have hfol : w.Follows w' := by
      have := World.exec_follows hw (o := .updateTunnel (TunnelReconciler.removeFinalizer t₀)) rfl c
      rwa [he] at this
    refine extend_update (h.of_retiring hr hu hfol) hr.read (fun hm => absurd hm hmem)
      fun t ht => ?_
    rcases exec_updateTunnel (h.seen hu hr.read) he with ⟨-, e, hans⟩ | ⟨-, rfl, ⟨e, hans⟩ | hans⟩
    · rw [ht] at hans; cases hans
    · rw [ht] at hans; cases hans
    · rw [ht] at hans
      cases hans
      exact ⟨rfl, fun hm => absurd hm hmem⟩

theorem active_eq (h : Reads req tr w) {t₀ base : Tunnel}
    (ha : TunnelReconciler.Active req tr t₀ base) :
    base = { t₀ with finalizers := base.finalizers, resourceVersion := base.resourceVersion } := by
  rcases ha.owned with ⟨-, rfl⟩ | ⟨-, hup⟩
  · rfl
  · rw [(h.origin hup).1]
    rfl

theorem active_held (h : Reads req tr w) (hu : Unpatched tr) {t₀ base : Tunnel}
    (ha : TunnelReconciler.Active req tr t₀ base) : Held base w := by
  rcases ha.owned with ⟨hf, rfl⟩ | ⟨-, hup⟩
  · exact h.held hu ha.read hf ha.notDeleting ha.notTerminated
  · exact h.added hu hup (by simp [TunnelReconciler.addFinalizer])

theorem dropped_eq (h : Reads req tr w) {t₀ t : Tunnel}
    (hd : TunnelReconciler.Dropped req tr t₀ t) :
    t = { t₀ with finalizers := t.finalizers, resourceVersion := t.resourceVersion } := by
  rcases hd.dropped with ⟨-, rfl⟩ | ⟨-, -, hup⟩
  · rfl
  · rw [(h.origin hup).1]
    rfl

theorem patchStatus (h : Reads req tr w) (hu : Unpatched tr) {x base : Tunnel}
    (hn : TunnelReconciler.Next r req tr (.patchStatus x base)) {c : Choice}
    {ans : Except ApiError Tunnel} (he : World.exec (.patchStatus x base) c w = (ans, w')) :
    Reads req (tr ++ [⟨.patchStatus x base, ans⟩]) w' := by
  obtain ⟨t₀, pod, allocated, changed, m, e, hc, -, rfl⟩ := hn
  have hno : ¬ Unpatched (tr ++ [⟨.patchStatus e.tunnel base, ans⟩]) := fun hu' => by
    have := hu' _ (List.mem_append_right _ (List.mem_singleton_self _))
    cases this
  exact
    { unique := fun ht ht' => h.unique (old (by simp) ht) (old (by simp) ht')
      key := fun ht => h.key (old (by simp) ht)
      seen := fun hu' => absurd hu' hno
      held := fun hu' => absurd hu' hno
      origin := fun ht => by
        obtain ⟨h₁, t₁, ht₁, h₂⟩ := h.origin (old (by simp) ht)
        exact ⟨h₁, t₁, ht₁.mono (subset_append_call _ _), h₂⟩
      added := fun hu' => absurd hu' hno
      patched := fun {x' base' t} ht => by
        rcases answered_append ht with ht | ⟨⟨⟩, rfl⟩
        · have := hu _ ht
          cases this
        · rcases exec_patchStatus (h.active_held hu hc.active) hc.key_eq he with
            ⟨-, err, hans⟩ | ⟨cur, hl, hlat, hf, rfl, ⟨err, hans⟩ | hans⟩
          · cases hans
          · cases hans
          · cases hans
            exact ⟨storeTunnel_held (t := { cur with status := e.tunnel.status }) hf, rfl, hlat.key,
              hlat.uid⟩ }

theorem step (hw : w.WF) (h : Reads req tr w) {op : Op}
    (hn : TunnelReconciler.Next r req tr op ∧ PatchesOnce r tr op) {c : Choice} {ans : op.Ans}
    (he : World.exec op c w = (ans, w')) : Reads req (tr ++ [⟨op, ans⟩]) w' := by
  cases ht : op.tellsTunnel with
  | false =>
      have hev : w.Evolves w' := by
        have := World.exec_evolves hw (o := op) (by cases op <;> first | rfl | cases ht)
          (fun x hx => by subst hx; cases ht) c
        rwa [he] at this
      exact (h.evolves hev).extend ht ans
  | true =>
      cases op with
      | getTunnel k =>
          obtain ⟨rfl, rfl⟩ := hn.1
          exact getTunnel hw he
      | updateTunnel x => exact h.updateTunnel hw (hn.2.unpatched (by simp)) hn.1 he
      | patchStatus x base => exact h.patchStatus (hn.2.unpatched (by simp)) hn.1 he
      | _ => cases ht

end Reads

end TunnelOperator
