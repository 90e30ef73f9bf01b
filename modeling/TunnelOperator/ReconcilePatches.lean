import TunnelOperator.ReconcileCalls
import TunnelOperator.Operations

/-!
# A reconciliation patches the status once

Nothing but notifications of the patched object follows the status patch, and nothing at all
follows an ADDED or MODIFIED update of an unpatched one.
-/

namespace TunnelOperator
open Interaction

def Unpatched (tr : Trace) : Prop := ∀ c ∈ tr, c.op.isPatch = false

/-- The operations that end a reconciliation of an active Tunnel. -/
def Op.concludes : Op → Bool
  | .patchStatus _ _ => true
  | .notifyUpdate u => u.type ≠ .deleted
  | _ => false

def Prepares (op : Op) : Prop := op.concludes = false

def Unconcluded (tr : Trace) : Prop := ∀ c ∈ tr, Prepares c.op

/-- What comes before the end looks up the forwarder service only if one is configured. -/
structure Preparing (r : TunnelReconciler) (op : Op) : Prop where
  prepares : Prepares op
  configured : ∀ k, op = .getService k → r.forwarderServiceKey.name ≠ ""

def Op.movesPorts : Op → Bool
  | .allocate _ => true
  | .release _ => true
  | .portAllocationsActiveInc => true
  | .portAllocationsActiveDec => true
  | _ => false

structure Quiet (r : TunnelReconciler) (op : Op) : Prop extends Preparing r op where
  neutral : op.movesPorts = false

theorem Unconcluded.unpatched {tr : Trace} (h : Unconcluded tr) : Unpatched tr := by
  intro c hc
  have := h c hc
  cases hop : c.op with
  | patchStatus x base => rw [hop] at this; cases this
  | _ => rfl

/-- A notification of the object that a status patch in the trace returned. -/
def NotifiesPatched (r : TunnelReconciler) (tr : Trace) (op : Op) : Prop :=
  ∃ x base t u, Answered tr (.patchStatus x base) (.ok t) ∧ op = .notifyUpdate u ∧
    TunnelReconciler.Notifies r t u

def PatchesOnce (r : TunnelReconciler) (tr : Trace) (op : Op) : Prop :=
  Unconcluded tr ∨ NotifiesPatched r tr op

theorem PatchesOnce.unconcluded {r : TunnelReconciler} {tr : Trace} {op : Op}
    (h : PatchesOnce r tr op) (hop : ∀ u, op ≠ .notifyUpdate u) : Unconcluded tr :=
  h.resolve_right fun ⟨_, _, _, _, _, he, _⟩ => hop _ he

theorem PatchesOnce.unpatched {r : TunnelReconciler} {tr : Trace} {op : Op}
    (h : PatchesOnce r tr op) (hop : ∀ u, op ≠ .notifyUpdate u) : Unpatched tr :=
  (h.unconcluded hop).unpatched

section Combinators

variable {α β : Type} {C : Op → Prop}

theorem uses_orReturn {p : Prog (Except String α)} {f : α → Prog (Except String β)}
    (hp : p.Uses C) (hf : ∀ a, (f a).Uses C) : (orReturn p f).Uses C := by
  refine Program.uses_bind hp fun x => ?_
  cases x with
  | error e => trivial
  | ok a => exact hf a

theorem uses_attempt {context : String} {p : Prog (Except ApiError α)} (hp : p.Uses C) :
    (attempt context p).Uses C := by
  refine Program.uses_bind hp fun x => ?_
  cases x <;> trivial

end Combinators

theorem Quiet.uses_preparing {r : TunnelReconciler} {α : Type} {p : Prog α}
    (hp : p.Uses (Quiet r)) :
    p.Uses (Preparing r) :=
  hp.mono fun _ h => h.toPreparing

namespace TunnelReconciler

variable {r : TunnelReconciler} {C : Op → Prop}

theorem notifyTunnelUpdate_uses (t : Tunnel) (type : UpdateType)
    (hC : ∀ u, u.type = type → Notifies r t u → C (.notifyUpdate u)) :
    (r.notifyTunnelUpdate t type).Uses C := by
  unfold notifyTunnelUpdate
  split_ifs with h₁ h₂
  · trivial
  · trivial
  · simp only [not_or, Bool.not_eq_false] at h₁
    refine Program.uses_perform (hC _ rfl ⟨h₁.1, by omega, rfl, fun hd => ?_⟩)
    simpa only [not_and, not_or] using not_and.mp h₂ hd

theorem deleted_prepares {t : Tunnel} (u : TunnelUpdate) (h : u.type = .deleted)
    (_ : Notifies r t u) :
    Preparing r (.notifyUpdate u) :=
  ⟨by simp [Prepares, Op.concludes, h], nofun⟩

theorem releaseForwarderPort_uses (t : Tunnel) : (r.releaseForwarderPort t).Uses (Preparing r) := by
  unfold releaseForwarderPort
  split_ifs
  · trivial
  · exact ⟨⟨rfl, nofun⟩, fun _ => Program.uses_perform ⟨rfl, nofun⟩⟩

theorem deleteGatewayResources_uses (t : Tunnel) (hpod : C (.deletePod (gatewayResourceKey t.key)))
    (hpolicy : C (.deleteNetworkPolicy (gatewayResourceKey t.key))) :
    (deleteGatewayResources t).Uses C := by
  have h : ∀ what (p : Prog (Except ApiError Unit)), p.Uses C → (deleteObject what p).Uses C := by
    refine fun what p hp => Program.uses_bind hp fun x => ?_
    rcases x with (_ | _ | _ | m) | ⟨⟩ <;> trivial
  exact uses_orReturn (h _ _ (Program.uses_perform hpod)) fun _ =>
    h _ _ (Program.uses_perform hpolicy)

theorem handleDeletion_uses (t : Tunnel) : (r.handleDeletion t).Uses (Preparing r) := by
  unfold handleDeletion
  split_ifs
  · refine uses_orReturn (deleteGatewayResources_uses t ⟨rfl, nofun⟩ ⟨rfl, nofun⟩) fun _ =>
      uses_orReturn (uses_attempt (Program.uses_perform ⟨rfl, nofun⟩)) fun t => ?_
    refine Program.uses_bind (releaseForwarderPort_uses t) fun _ => ?_
    exact Program.uses_bind (notifyTunnelUpdate_uses t _ deleted_prepares) fun _ => trivial
  · exact Program.uses_bind (releaseForwarderPort_uses t) fun _ => trivial

theorem handleTerminated_uses (t : Tunnel) : (r.handleTerminated t).Uses (Preparing r) := by
  have hdrop : (dropFinalizer t).Uses (Preparing r) := by
    unfold dropFinalizer
    split_ifs
    · exact uses_attempt (Program.uses_perform ⟨rfl, nofun⟩)
    · trivial
  refine uses_orReturn (deleteGatewayResources_uses t ⟨rfl, nofun⟩ ⟨rfl, nofun⟩) fun _ =>
    uses_orReturn hdrop fun t => ?_
  refine Program.uses_bind (releaseForwarderPort_uses t) fun _ => ?_
  refine Program.uses_bind (notifyTunnelUpdate_uses t _ deleted_prepares) fun _ =>
    ⟨⟨rfl, nofun⟩, fun a => ?_⟩
  cases a <;> trivial

theorem ensureFinalizer_uses (t : Tunnel) : (ensureFinalizer t).Uses (Quiet r) := by
  unfold ensureFinalizer
  split_ifs
  · trivial
  · exact uses_attempt (Program.uses_perform ⟨⟨rfl, nofun⟩, rfl⟩)

theorem ensureGatewayPod_uses (t : Tunnel) : (r.ensureGatewayPod t).Uses (Quiet r) := by
  refine ⟨⟨⟨rfl, nofun⟩, rfl⟩, fun a => ?_⟩
  rcases a with (_ | _ | _ | m) | pod
  · exact uses_attempt (Program.uses_perform ⟨⟨rfl, nofun⟩, rfl⟩)
  all_goals trivial

theorem ensureNetworkPolicy_uses (t : Tunnel) : (ensureNetworkPolicy t).Uses (Quiet r) := by
  refine ⟨⟨⟨rfl, nofun⟩, rfl⟩, fun a => ?_⟩
  rcases a with (_ | _ | _ | m) | existing
  · exact uses_attempt (Program.uses_perform ⟨⟨rfl, nofun⟩, rfl⟩)
  · trivial
  · trivial
  · trivial
  · change Program.Uses _ (if mutatePolicy t existing = existing then _ else _)
    split_ifs
    · trivial
    · exact uses_attempt (Program.uses_perform ⟨⟨rfl, nofun⟩, rfl⟩)

theorem updateForwarderEndpoint_uses (e : Evaluation) :
    (r.updateForwarderEndpoint e).Uses (Quiet r) := by
  have hvip : r.resolveForwarderVIP.Uses (Quiet r) := by
    unfold resolveForwarderVIP
    split_ifs with _ hname
    · trivial
    · trivial
    · refine ⟨⟨⟨rfl, fun _ _ => hname⟩, rfl⟩, fun a => ?_⟩
      cases a with
      | error e => trivial
      | ok svc => simp only [Program.pure_bind]; split <;> trivial
  refine Program.uses_bind hvip fun x => ?_
  cases x with
  | error e => trivial
  | ok vip => simp only; split_ifs <;> trivial

theorem handleReadyPod_uses (t : Tunnel) (pod : Pod) : (r.handleReadyPod t pod).Uses (Quiet r) := by
  unfold handleReadyPod
  split_ifs
  · exact updateForwarderEndpoint_uses _
  · refine ⟨⟨⟨rfl, nofun⟩, rfl⟩, fun a => ?_⟩
    cases a with
    | error e => exact updateForwarderEndpoint_uses _
    | ok key =>
        simp only [Program.pure_bind]
        split_ifs
        · exact updateForwarderEndpoint_uses _
        · refine Program.uses_bind ?_ fun missing => ?_
          · unfold missingAcks
            split_ifs
            · exact Program.uses_perform ⟨⟨rfl, nofun⟩, rfl⟩
            · trivial
          · split_ifs
            · trivial
            · exact updateForwarderEndpoint_uses _

theorem evaluatePodPhase_uses (t : Tunnel) (pod : Pod) :
    (r.evaluatePodPhase t pod).Uses (Quiet r) := by
  unfold evaluatePodPhase
  split_ifs
  · trivial
  · trivial
  · exact handleReadyPod_uses t pod
  · trivial

theorem assignPort_uses (t : Tunnel) : (r.assignPort t).Uses (Preparing r) := by
  unfold assignPort
  split_ifs
  · refine ⟨⟨rfl, nofun⟩, fun a => ?_⟩
    cases a with
    | error e => trivial
    | ok p => exact ⟨⟨rfl, nofun⟩, fun _ => trivial⟩
  · trivial

section Once

variable {α β : Type} {tr : Trace}

theorem prepares_traces {p : Prog α} (hp : p.Uses (Preparing r)) (htr : Unconcluded tr) :
    p.Traces (PatchesOnce r) (fun _ tr' => Unconcluded tr') tr := by
  refine hp.traces (fun tr op htr hop => ⟨Or.inl htr, fun a c hc => ?_⟩) htr
  rcases List.mem_append.mp hc with hc | hc
  · exact htr c hc
  · rw [List.mem_singleton.mp hc]
    exact hop.prepares

theorem notifies_traces {p : Prog α} {x base t : Tunnel}
    (hp : p.Uses fun op => ∃ u, op = .notifyUpdate u ∧ Notifies r t u)
    (htr : Answered tr (.patchStatus x base) (.ok t)) :
    p.Traces (PatchesOnce r) (fun _ tr' => Answered tr' (.patchStatus x base) (.ok t)) tr := by
  refine hp.traces (fun tr op htr hop => ⟨Or.inr ?_, fun a => htr.mono (subset_append_call _ _)⟩)
    htr
  obtain ⟨u, rfl, hu⟩ := hop
  exact ⟨x, base, t, u, htr, rfl, hu⟩

theorem orReturn_once {p : Prog (Except String α)} {f : α → Prog (Except String β)}
    (hp : p.Uses (Preparing r)) (htr : Unconcluded tr)
    (hf : ∀ a tr, Unconcluded tr → (f a).Traces (PatchesOnce r) (fun _ _ => True) tr) :
    (orReturn p f).Traces (PatchesOnce r) (fun _ _ => True) tr :=
  traces_orReturn (Q := fun _ tr => Unconcluded tr)
    ((prepares_traces hp htr).mono fun _ _ h => ⟨fun _ _ => h, fun _ _ => trivial⟩) hf

/-- The trace has no patch, or a patch that returned `t`. -/
def PatchedOrNot (t : Tunnel) (tr : Trace) : Prop :=
  Unconcluded tr ∨ ∃ x base, Answered tr (.patchStatus x base) (.ok t)

theorem persistStatus_once {e : Evaluation} {base : Tunnel} {changed : Bool} {type : UpdateType}
    (htr : Unconcluded tr) :
    (r.persistStatus e base changed type).Traces (PatchesOnce r)
      (fun x tr' => ∀ t, x = .ok t → PatchedOrNot t tr') tr := by
  unfold persistStatus
  by_cases hc : (changed || e.updated) = true
  · rw [if_pos hc]
    refine ⟨Or.inl htr, fun a => ?_⟩
    have hans := answered_last tr (.patchStatus e.tunnel base) a
    cases a with
    | error err => exact fun t ht => by cases ht
    | ok t =>
        have hret : ∀ tr', Answered tr' (.patchStatus e.tunnel base) (.ok t) →
            ∀ t', (.ok t : Except String Tunnel) = .ok t' → PatchedOrNot t' tr' := by
          rintro tr' htr' t' ⟨⟩
          exact Or.inr ⟨_, _, htr'⟩
        by_cases hch : changed = true
        · simp only [Program.pure_bind, if_pos hch]
          exact (notifies_traces (notifyTunnelUpdate_uses t type fun u _ hu =>
            ⟨u, rfl, hu⟩) hans).seq fun _ tr' htr' => hret tr' htr'
        · simp only [Program.pure_bind, if_neg hch]
          exact hret _ hans
  · rw [if_neg hc]
    exact fun _ _ => Or.inl htr

theorem republish_once {t : Tunnel} (htr : PatchedOrNot t tr) :
    (r.republish t).Traces (PatchesOnce r) (fun _ _ => True) tr := by
  unfold republish
  split_ifs
  · rcases htr with htr | ⟨x, base, htr⟩
    · unfold notifyTunnelUpdate
      split_ifs
      · trivial
      · trivial
      · exact ⟨Or.inl htr, fun _ => trivial⟩
    · exact (notifies_traces (notifyTunnelUpdate_uses t _ fun u _ hu => ⟨u, rfl, hu⟩) htr).mono
        fun _ _ _ => trivial
  · trivial

theorem reconcileStatus_once {base : Tunnel} {pod : Pod} (htr : Unconcluded tr) :
    (r.reconcileStatus base pod).Traces (PatchesOnce r) (fun _ _ => True) tr := by
  refine orReturn_once (assignPort_uses base) htr ?_
  rintro ⟨t, allocated⟩ tr₁ htr₁
  refine (prepares_traces (Quiet.uses_preparing (evaluatePodPhase_uses _ pod)) htr₁).seq
    fun e tr₂ htr₂ => ?_
  refine traces_orReturn (Q := PatchedOrNot)
    ((persistStatus_once htr₂).mono fun _ _ h => ⟨h, fun _ _ => trivial⟩) fun t' tr₃ htr₃ => ?_
  exact (republish_once htr₃).seq fun _ _ _ => trivial

end Once

theorem reconcile_once (r : TunnelReconciler) (req : NamespacedName) :
    (r.reconcile req).Traces (PatchesOnce r) (fun _ _ => True) [] := by
  have hget : ∀ a, Unconcluded ([] ++ [⟨.getTunnel req, a⟩]) := by
    intro a c hc
    rw [List.mem_singleton.mp hc]
    rfl
  have hdone : ∀ {p : Prog (Except String Unit)} {tr}, p.Uses (Preparing r) → Unconcluded tr →
      (done p).Traces (PatchesOnce r) (fun _ _ => True) tr :=
    fun hp htr => orReturn_once hp htr fun _ _ _ => trivial
  refine ⟨Or.inl (by simp [Unconcluded]), fun a => ?_⟩
  cases a with
  | error e => exact hdone trivial (hget _)
  | ok t =>
      simp only [Program.pure_bind]
      split_ifs
      · exact hdone (handleDeletion_uses t) (hget _)
      · exact hdone (handleTerminated_uses t) (hget _)
      · cases validateTunnelTarget t.spec.target with
        | error err => trivial
        | ok u =>
            refine orReturn_once (Quiet.uses_preparing (ensureFinalizer_uses t)) (hget _)
              fun base tr htr => ?_
            refine orReturn_once (Quiet.uses_preparing (ensureGatewayPod_uses base)) htr
              fun pod tr₁ htr₁ => ?_
            refine orReturn_once (Quiet.uses_preparing (ensureNetworkPolicy_uses base)) htr₁
              fun _ tr₂ htr₂ => ?_
            exact reconcileStatus_once htr₂

/-- The logic of one reconciliation: every call is admitted by `Next`, and only
notifications follow a status patch. -/
theorem reconcile_logic (r : TunnelReconciler) (req : NamespacedName) :
    (r.reconcile req).Traces (fun tr op => Next r req tr op ∧ PatchesOnce r tr op) (Returns r req)
      [] :=
  ((reconcile_traces r req).and (reconcile_once r req)).mono fun _ _ h => h.1

end TunnelReconciler
end TunnelOperator
