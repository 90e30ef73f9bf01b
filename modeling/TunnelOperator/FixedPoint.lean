import TunnelOperator.HeldPorts
import TunnelOperator.SettledStatus

/-!
# A reconciliation reaches its fixed point

Two runs of `Reconcile` on a store that nobody else writes to, while the gateway, the forwarders
and the forwarder service keep giving the same answers. The first run leaves a settled status, so
the second one finds nothing to do.
-/

namespace TunnelOperator
open Interaction TunnelReconciler Scenario

/-- The meaning of the operations while the questions to others have fixed answers. -/
def answering (a : Answers) : (op : Op) → Choice → World → op.Ans × World
  | .getService key, _, w => (a (.getService key), w)
  | .fetchGatewayStatus pod, _, w =>
      (a (.fetchGatewayStatus pod), World.recordFetch pod (a (.fetchGatewayStatus pod)) w)
  | .missingAcks ns name revision, _, w => (a (.missingAcks ns name revision), w)
  | op, c, w => World.exec op c w

def reconcileAnswered (r : TunnelReconciler) (req : NamespacedName) (a : Answers) (c : ℕ → Choice)
    (w : World) : Except String Result × Trace × World :=
  (r.reconcile req).run (answering a) c [] w

section Configured

variable {r : TunnelReconciler}

/-- The forwarder service is looked up only if one is configured. -/
def Configured (r : TunnelReconciler) (op : Op) : Prop :=
  ∀ k, op = .getService k → r.forwarderServiceKey.name ≠ ""

theorem persistStatus_configured (e : Evaluation) (base : Tunnel) (changed : Bool)
    (type : UpdateType) :
    (r.persistStatus e base changed type).Uses (Configured r) := by
  unfold persistStatus
  split_ifs
  · refine uses_orReturn (uses_attempt (Program.uses_perform nofun)) fun t => ?_
    exact Program.uses_bind (notifyTunnelUpdate_uses t _ fun _ _ _ => nofun) fun _ => trivial
  · refine uses_orReturn (uses_attempt (Program.uses_perform nofun)) fun t => ?_
    trivial
  · trivial

theorem republish_configured (t : Tunnel) : (r.republish t).Uses (Configured r) := by
  unfold republish
  split_ifs
  · exact notifyTunnelUpdate_uses t _ fun _ _ _ => nofun
  · trivial

theorem reconcile_configured (r : TunnelReconciler) (req : NamespacedName) :
    (r.reconcile req).Uses (Configured r) := by
  have hprep : ∀ {α : Type} {p : Prog α}, p.Uses (Preparing r) → p.Uses (Configured r) :=
    fun hp => hp.mono fun _ h => h.configured
  have hquiet : ∀ {α : Type} {p : Prog α}, p.Uses (Quiet r) → p.Uses (Configured r) :=
    fun hp => hp.mono fun _ h => h.configured
  refine ⟨nofun, fun ans => ?_⟩
  cases ans with
  | error e => exact uses_orReturn trivial fun _ => trivial
  | ok t =>
      simp only [Program.pure_bind]
      split_ifs
      · exact uses_orReturn (hprep (handleDeletion_uses t)) fun _ => trivial
      · exact uses_orReturn (hprep (handleTerminated_uses t)) fun _ => trivial
      · cases validateTunnelTarget t.spec.target with
        | error err => trivial
        | ok _ =>
            refine uses_orReturn (hquiet (ensureFinalizer_uses t)) fun base => ?_
            refine uses_orReturn (hquiet (ensureGatewayPod_uses base)) fun pod => ?_
            refine uses_orReturn (hquiet (ensureNetworkPolicy_uses base)) fun _ => ?_
            refine uses_orReturn (hprep (assignPort_uses base)) fun assigned => ?_
            refine Program.uses_bind (hquiet (evaluatePodPhase_uses _ pod)) fun e => ?_
            refine uses_orReturn (persistStatus_configured e base _ _) fun t => ?_
            exact Program.uses_bind (republish_configured t) fun _ => trivial

end Configured

/-- What an answer says: about the store `w₀` that the run started on, in which Tunnel `t` is the
one to reconcile, and about the present store `w`. -/
def Told (r : TunnelReconciler) (req : NamespacedName) (a : Answers) (w₀ : World) (t : Tunnel)
    (w : World) : (op : Op) → op.Ans → Prop
  | .getTunnel _, .ok t' => t' = t
  | .getTunnel _, .error e => e ≠ .notFound
  | .getPod _, .ok pod => w.pods.lookup (gatewayResourceKey req) = some pod
  | .getPod _, .error e => e = .notFound → w₀.pods.lookup (gatewayResourceKey req) = none
  | .createPod _, ans => w₀.pods.lookup (gatewayResourceKey req) = none ∧
      ∀ pod, ans = .ok pod → w.pods.lookup (gatewayResourceKey req) = some pod
  | .allocate _, _ => t.status.forwarderPort = 0 ∧ r.portAllocator = true
  | .getService k, ans => ans = a (.getService k)
  | .fetchGatewayStatus pod, ans => ans = a (.fetchGatewayStatus pod)
  | .missingAcks ns name revision, ans => ans = a (.missingAcks ns name revision)
  | _, _ => True

/-- An undisturbed run that started on `w₀` with Tunnel `t` and has made the calls `tr`. -/
structure Steady (r : TunnelReconciler) (req : NamespacedName) (a : Answers) (w₀ : World)
    (t : Tunnel) (tr : Trace) (w : World) : Prop where
  start : tr = [] → w.tunnels.lookup req = some t
  told : ∀ {op ans}, Answered tr op ans → Told r req a w₀ t w op ans
  alive : ∀ {t'}, w.tunnels.lookup req = some t' → t'.deletionTimestamp = false
  stored : Unpatched tr → ∃ t', w.tunnels.lookup req = some t' ∧ t'.status = t.status
  pods : ∀ {pod}, w₀.pods.lookup (gatewayResourceKey req) = some pod →
    w.pods.lookup (gatewayResourceKey req) = some pod
  allocator : w.allocator.WF
  ports : AllocationsHeld req tr w
  computed : ∀ {x base ans}, Answered tr (.patchStatus x base) ans → ∃ pod allocated changed m e,
    Computed r req tr t base pod allocated changed m e ∧ (changed || e.updated) = true

section Steps

variable {r : TunnelReconciler} {req : NamespacedName} {a : Answers} {w₀ w w' : World} {t : Tunnel}
  {tr : Trace} {op : Op} {c : Choice} {ans : op.Ans}

theorem answering_exec (he : answering a op c w = (ans, w')) :
    ∃ c', World.exec op c' w = (ans, w') := by
  cases op with
  | getService key => exact ⟨{ c with service := a (.getService key) }, he⟩
  | fetchGatewayStatus pod => exact ⟨{ c with gatewayStatus := a (.fetchGatewayStatus pod) }, he⟩
  | missingAcks ns name revision =>
      exact ⟨{ c with missing := a (.missingAcks ns name revision) }, he⟩
  | _ => exact ⟨c, he⟩

theorem exec_pods_kept (hop : ∀ k, op ≠ .deletePod k) {k : NamespacedName} {pod : Pod}
    (h : w.pods.lookup k = some pod) : (World.exec op c w).2.pods.lookup k = some pod := by
  rcases World.exec_pods op c w with he | ⟨spec, rfl, he⟩ | ⟨k', rfl, -⟩
  · rw [he]
    exact h
  · refine World.writeResult_state (P := fun w' => w'.pods.lookup k = some pod) h ?_
    unfold World.createPod
    cases hfree : w.pods.lookup spec.key with
    | some _ => exact h
    | none =>
        rw [Table.lookup_insert_eq, if_neg]
        · exact h
        · rintro rfl
          rw [hfree] at h
          cases h
  · exact absurd rfl (hop k')

theorem storeTunnel_lookup_live (hkey : t.key = req) (hd : t.deletionTimestamp = false) :
    (w.storeTunnel t).tunnels.lookup req = some { t with resourceVersion := w.version + 1 } := by
  rw [World.storeTunnel_lookup, if_pos hkey.symm, if_neg]
  rintro ⟨hd', -⟩
  rw [hd] at hd'
  cases hd'

namespace Steady

theorem nil (ha : w₀.allocator.WF) (ht : w₀.tunnels.lookup req = some t)
    (hd : t.deletionTimestamp = false) : Steady r req a w₀ t [] w₀ where
  start := fun _ => ht
  told := fun h => by cases h
  alive := fun {t'} ht' => by
    rw [ht] at ht'
    cases ht'
    exact hd
  stored := fun _ => ⟨t, ht, rfl⟩
  pods := fun h => h
  allocator := ha
  ports := fun _ _ h => by cases h
  computed := fun h => by cases h

variable (hr : Reads req tr w) (h : Steady r req a w₀ t tr w) (hlive : t.Live)

include h hlive in
theorem not_retiring {t₁ : Tunnel} : ¬ Retiring req tr t₁ := by
  intro hret
  have heq : t₁ = t := h.told hret.read
  rw [heq] at hret
  exact hret.not_live hlive

include h in
theorem active_eq {t₁ base : Tunnel} (hact : Active req tr t₁ base) : t₁ = t := h.told hact.read

include hr h in
theorem base_eq {t₁ base : Tunnel} (hact : Active req tr t₁ base) :
    base.key = req ∧ base.status = t.status := by
  have hbase := hr.active_eq hact
  have hkey := hr.key hact.read
  rw [h.active_eq hact] at hbase hkey
  rw [hbase]
  exact ⟨hkey, rfl⟩

include hr h in
theorem hasPod {t₁ base : Tunnel} {pod : Pod} (hact : Active req tr t₁ base)
    (hp : HasPod r tr base pod) :
    w.pods.lookup (gatewayResourceKey req) = some pod := by
  rw [HasPod, (h.base_eq hr hact).1] at hp
  rcases hp with hp | ⟨-, hp⟩
  · exact h.told hp
  · exact (h.told hp).2 pod rfl

include h hlive in
theorem pods_step (hn : Next r req tr op) {pod : Pod}
    (hpod : w.pods.lookup (gatewayResourceKey req) = some pod) :
    (World.exec op c w).2.pods.lookup (gatewayResourceKey req) = some pod := by
  refine exec_pods_kept ?_ hpod
  rintro k rfl
  obtain ⟨t₁, hret, -⟩ := hn
  exact h.not_retiring hlive hret

include hr h hlive in
theorem store_step (hw : w.WF) (hn : Next r req tr op) (hp : PatchesOnce r tr op)
    (he : World.exec op c w = (ans, w')) :
    (∀ {t'}, w'.tunnels.lookup req = some t' → t'.deletionTimestamp = false) ∧
      (Unpatched (tr ++ [⟨op, ans⟩]) → ∃ t', w'.tunnels.lookup req = some t' ∧
        t'.status = t.status) := by
  cases hwrites : op.writesTunnel with
  | false =>
      have hs := World.exec_sameTunnels hwrites c w
      rw [he] at hs
      rw [hs.tunnels]
      exact ⟨h.alive, fun hu => h.stored hu.of_append⟩
  | true =>
      cases op with
      | updateTunnel x =>
          rcases hn with ⟨t₁, ht₁, hd₁, -, -, -, rfl⟩ | ⟨t₁, hret, -⟩
          · have hkey := hr.key ht₁
            obtain rfl : t₁ = t := h.told ht₁
            rcases exec_updateTunnel (hr.seen (hp.unpatched (by simp)) ht₁) he with ⟨rfl, -⟩ |
              ⟨-, rfl, -⟩
            · exact ⟨h.alive, fun hu => h.stored hu.of_append⟩
            · have hlook := storeTunnel_lookup_live (w := w) (t := addFinalizer t₁) hkey hd₁
              refine ⟨fun {t'} ht' => ?_, fun _ => ⟨_, hlook, rfl⟩⟩
              cases hlook.symm.trans ht'
              exact hd₁
          · exact absurd hret (h.not_retiring hlive)
      | patchStatus x base =>
          obtain ⟨t₁, pod, allocated, changed, m, e, hc, -, rfl⟩ := hn
          have hheld := hr.active_held (hp.unpatched (by simp)) hc.active
          have hkey := (h.base_eq hr hc.active).1
          refine ⟨?_, fun hu => ?_⟩
          · rcases exec_patchStatus hheld hc.key_eq he with ⟨rfl, -⟩ | ⟨cur, hl, -, -, rfl, -⟩
            · exact h.alive
            · rw [hkey] at hl
              have hd := h.alive hl
              have hcur := hw.key hl
              have hlook := storeTunnel_lookup_live (w := w)
                (t := { cur with status := e.tunnel.status }) hcur hd
              intro t' ht'
              cases hlook.symm.trans ht'
              exact hd
          · have hpatch := hu _ (List.mem_append_right _ (List.mem_singleton_self _))
            cases hpatch
      | deleteTunnel k =>
          obtain ⟨t₁, t₂, hdr, -⟩ := hn
          exact absurd hdr.retiring (h.not_retiring hlive)
      | _ => cases hwrites

include hr h in
theorem told_step (hn : Next r req tr op) (he : answering a op c w = (ans, w')) :
    Told r req a w₀ t w' op ans := by
  obtain ⟨hans, hw'⟩ := Prod.mk.inj he
  cases op with
  | getTunnel k =>
      obtain ⟨rfl, rfl⟩ := hn
      have hstart := h.start rfl
      change World.getResult c (w.tunnels.lookup k) = ans at hans
      rw [hstart] at hans
      cases ans with
      | error e =>
          rintro rfl
          exact World.getResult_found c t hans
      | ok t' => exact (Option.some.inj (World.getResult_ok hans)).symm
  | getPod k =>
      obtain ⟨t₁, base, hact, rfl⟩ := hn
      rw [(h.base_eq hr hact).1] at hans hw'
      change World.getResult c (w.pods.lookup (gatewayResourceKey req)) = ans at hans
      obtain rfl : w = w' := hw'
      cases ans with
      | error e =>
          rintro rfl
          cases hpod : w₀.pods.lookup (gatewayResourceKey req) with
          | none => rfl
          | some pod =>
              rw [h.pods hpod] at hans
              exact absurd hans (World.getResult_found c pod)
      | ok pod => exact World.getResult_ok hans
  | createPod spec =>
      obtain ⟨t₁, base, hact, rfl, hnone⟩ := hn
      have hkey := (h.base_eq hr hact).1
      rw [hkey] at hnone
      refine ⟨h.told hnone rfl, ?_⟩
      rintro pod rfl
      have hstored : w'.pods.lookup _ = some pod := (World.exec_createPod_ok he).2
      rwa [show (gatewayPod r base).key = gatewayResourceKey base.key from rfl, hkey] at hstored
  | allocate k =>
      obtain ⟨t₁, base, pod, hact, -, hzero, hyes, -⟩ := hn
      rw [(h.base_eq hr hact).2] at hzero
      exact ⟨hzero, hyes⟩
  | getService k => exact hans.symm
  | fetchGatewayStatus pod => exact hans.symm
  | missingAcks ns name revision => exact hans.symm
  | _ => trivial

theorem told_mono (hpods : ∀ {pod}, w.pods.lookup (gatewayResourceKey req) = some pod →
      w'.pods.lookup (gatewayResourceKey req) = some pod)
    (h : Told r req a w₀ t w op ans) : Told r req a w₀ t w' op ans := by
  cases op with
  | getTunnel k => cases ans <;> exact h
  | getPod k =>
      cases ans with
      | error e => exact h
      | ok pod => exact hpods h
  | createPod spec => exact ⟨h.1, fun pod hpod => hpods (h.2 pod hpod)⟩
  | _ => exact h

include hr h hlive in
theorem step (hw : w.WF) (hn : Next r req tr op) (hp : PatchesOnce r tr op)
    (he : answering a op c w = (ans, w')) : Steady r req a w₀ t (tr ++ [⟨op, ans⟩]) w' := by
  obtain ⟨c', he'⟩ := answering_exec he
  have hpods : ∀ {pod}, w.pods.lookup (gatewayResourceKey req) = some pod →
      w'.pods.lookup (gatewayResourceKey req) = some pod := by
    intro pod hpod
    have hkept := h.pods_step (c := c') hlive hn hpod
    rwa [he'] at hkept
  obtain ⟨halive, hstored⟩ := h.store_step hr hlive hw hn hp he'
  exact
    { start := fun hnil => by simp at hnil
      told := fun {op' ans'} ha => by
        rcases answered_append ha with ha | ⟨rfl, rfl⟩
        · exact told_mono hpods (h.told ha)
        · exact h.told_step hr hn he
      alive := halive
      stored := hstored
      pods := fun hpod => hpods (h.pods hpod)
      allocator := by
        have hwf := World.exec_allocator_wf h.allocator op c'
        rwa [he'] at hwf
      ports := h.ports.step h.allocator hr.unique hn he'
      computed := fun {x base ans'} ha => by
        rcases answered_append ha with ha | ⟨rfl, -⟩
        · obtain ⟨pod, allocated, changed, m, e, hc, hflag⟩ := h.computed ha
          exact ⟨pod, allocated, changed, m, e, hc.mono (subset_append_call _ _), hflag⟩
        · obtain ⟨t₁, pod, allocated, changed, m, e, hc, hflag, -⟩ := hn
          obtain rfl := h.active_eq hc.active
          exact ⟨pod, allocated, changed, m, e, hc.mono (subset_append_call _ _), hflag⟩ }

include h in
theorem consistent (hconf : ∀ call ∈ tr, Configured r call.op) : Consistent r a tr where
  service := fun ha => h.told ha
  configured := fun ha => hconf _ ha _ rfl
  fetched := fun ha => h.told ha
  missing := fun ha => h.told ha

include hr h in
theorem computed_unique (hconf : ∀ call ∈ tr, Configured r call.op)
    {base base' : Tunnel} {pod pod' : Pod} {allocated allocated' changed changed' : Bool}
    {m m' : Tunnel} {e e' : Evaluation} (hc : Computed r req tr t base pod allocated changed m e)
    (hc' : Computed r req tr t base' pod' allocated' changed' m' e') :
    e'.tunnel.status = e.tunnel.status := by
  obtain ⟨hkey, hstatus⟩ := h.base_eq hr hc.active
  obtain ⟨hkey', hstatus'⟩ := h.base_eq hr hc'.active
  have hpod := h.hasPod hr hc.active hc.hasPod
  have hpod' := h.hasPod hr hc'.active hc'.hasPod
  obtain rfl : pod = pod' := Option.some.inj (hpod.symm.trans hpod')
  have hcons := h.consistent hconf
  have hm : m'.status = m.status := by
    refine hc.toMapped.status_eq hc'.toMapped (hkey'.trans hkey.symm)
      (hstatus'.trans hstatus.symm) ?_
    intro p p' hp hp'
    have heq := (h.ports _ _ hp).2.symm.trans (h.ports _ _ hp').2
    exact (Option.some.inj heq).symm
  rw [hc.evaluated.status hcons, hc'.evaluated.status hcons, hm, hc.toMapped.key_eq,
    hc'.toMapped.key_eq, hkey, hkey']

end Steady

end Steps

section Outcome

variable {r : TunnelReconciler} {req : NamespacedName} {a : Answers} {w₀ w : World}
  {t base t₁ : Tunnel} {tr : Trace} {pod : Pod} {allocated changed : Bool} {m : Tunnel}
  {e : Evaluation}

def Patched (tr : Trace) : Prop := ∃ x base ans, Answered tr (.patchStatus x base) ans

theorem unpatched_of_not_patched {tr : Trace} (h : ¬ Patched tr) : Unpatched tr := by
  intro call hcall
  obtain ⟨op, ans⟩ := call
  cases op with
  | patchStatus x base => exact absurd ⟨x, base, ans, hcall⟩ h
  | _ => rfl

namespace Steady

theorem returns_computed (h : Steady r req a w₀ t tr w) (hlive : t.Live) {result : Result}
    (hreturns : Returns r req (.ok result) tr) : ∃ base pod allocated changed m e t₁,
      Computed r req tr t base pod allocated changed m e ∧ Persisted tr base changed e t₁ := by
  rcases hreturns with ⟨err, hget, hnot⟩ | ⟨t₀, hret⟩ | ⟨t₀, hget, -, -, hend⟩
  · rcases hnot with rfl | ⟨msg, herr⟩
    · exact absurd rfl (h.told hget)
    · cases herr
  · exact absurd hret (h.not_retiring hlive)
  · obtain rfl : t₀ = t := h.told hget
    rcases hend with ⟨msg, herr⟩ | ⟨base, pod, allocated, changed, m, e, t₁, hc, hpers, -⟩
    · cases herr
    · exact ⟨base, pod, allocated, changed, m, e, t₁, hc, hpers⟩

variable (hr : Reads req tr w) (h : Steady r req a w₀ t tr w)
  (hconf : ∀ call ∈ tr, Configured r call.op)
  (hc : Computed r req tr t base pod allocated changed m e) (hpers : Persisted tr base changed e t₁)

include h in
theorem port_ne_zero {k : NamespacedName} {p : Int}
    (hp : Answered tr (.allocate (tunnelKey k)) (.ok p)) :
    p ≠ 0 := by
  have hrange := h.allocator.inRange _ _ (h.ports _ _ hp).2
  have hmin := h.allocator.minPort_pos
  omega

include hr h hconf hc hpers in
theorem patched_iff : Patched tr ↔ e.tunnel.status ≠ t.status := by
  constructor
  · rintro ⟨x, base', ans, hpatch⟩
    obtain ⟨pod', allocated', changed', m', e', hc', hflag⟩ := h.computed hpatch
    rw [← h.computed_unique hr hconf hc hc', ← (h.base_eq hr hc'.active).2]
    exact hc'.patches_iff.mp hflag
  · intro hne
    rw [← (h.base_eq hr hc.active).2, ← hc.patches_iff] at hne
    rcases hpers with ⟨-, hans⟩ | ⟨hno, -⟩
    · exact ⟨_, _, _, hans⟩
    · rw [hno] at hne
      cases hne

include hr h hconf hc hpers in
theorem leaves_status : ∃ t', w.tunnels.lookup req = some t' ∧ t'.status = e.tunnel.status := by
  have hiff := h.patched_iff hr hconf hc hpers
  obtain ⟨hkey, hstatus⟩ := h.base_eq hr hc.active
  rcases hpers with ⟨-, hans⟩ | ⟨hno, -⟩
  · obtain ⟨⟨t', ht', hlater, -⟩, hs, hk, -⟩ := hr.patched hans
    rw [hk, hkey] at ht'
    exact ⟨t', ht', hlater.status.trans hs⟩
  · have hsame : e.tunnel.status = t.status := by
      by_contra hne
      rw [← hstatus, ← ne_eq, ← hc.patches_iff, hno] at hne
      cases hne
    rw [hsame]
    exact h.stored (unpatched_of_not_patched fun hp => hiff.mp hp hsame)

end Steady

end Outcome

section Runs

variable (r : TunnelReconciler) (req : NamespacedName) (a : Answers)

theorem reconcileAnswered_configured (c : ℕ → Choice) (w : World) :
    ∀ call ∈ (reconcileAnswered r req a c w).2.1, Configured r call.op := by
  have hstep : ∀ (tr : Trace) (op : Op), (∀ call ∈ tr, Configured r call.op) → Configured r op →
      True ∧ ∀ ans : op.Ans, ∀ call ∈ tr ++ [⟨op, ans⟩], Configured r call.op := by
    intro tr op htr hop
    refine ⟨trivial, fun ans call hcall => ?_⟩
    rcases List.mem_append.mp hcall with hold | hnew
    · exact htr call hold
    · rw [List.mem_singleton.mp hnew]
      exact hop
  have htraces := (reconcile_configured r req).traces (P := fun _ _ => True) hstep
    (List.forall_mem_nil _)
  exact htraces.run (answering a) c w

variable {r req a} {w : World} {t : Tunnel}

theorem reconcileAnswered_steady (hw : w.WF) (ha : w.allocator.WF)
    (ht : w.tunnels.lookup req = some t) (hlive : t.Live) (c : ℕ → Choice) :
    let run := reconcileAnswered r req a c w
    Returns r req run.1 run.2.1 ∧ Reads req run.2.1 run.2.2 ∧ Steady r req a w t run.2.1 run.2.2 ∧
      run.2.2.WF := by
  obtain ⟨⟨hreturns, hreads, hsteady⟩, hwf⟩ :=
    reconcile_run (A := Steady r req a w t) r req answering_exec
    (fun hn hp hr h hi he => h.step hr hlive hi hn hp he) hw (Steady.nil ha ht hlive.1) c
  exact ⟨hreturns, hreads, hsteady, hwf⟩

theorem settled_quiet (hw : w.WF) (ha : w.allocator.WF) (ht : w.tunnels.lookup req = some t)
    (hlive : t.Live) {pod : Pod} (hpod : w.pods.lookup (gatewayResourceKey req) = some pod)
    (hsettled : Settled r a t pod) (c : ℕ → Choice) :
    let run := reconcileAnswered r req a c w
    ¬ Patched run.2.1 ∧ (∀ spec ans, ¬ Answered run.2.1 (.createPod spec) ans) ∧
      (∀ k ans, ¬ Answered run.2.1 (.allocate k) ans) ∧
      ∃ t', run.2.2.tunnels.lookup req = some t' ∧ t'.status = t.status := by
  intro run
  obtain ⟨-, hr, h, -⟩ := reconcileAnswered_steady (r := r) (a := a) hw ha ht hlive c
  have hcons := h.consistent (reconcileAnswered_configured r req a c w)
  have hquiet : ¬ Patched run.2.1 := by
    rintro ⟨x, base, ans, hpatch⟩
    obtain ⟨pod', allocated, changed, m, e, hc, hflag⟩ := h.computed hpatch
    obtain ⟨hkey, hstatus⟩ := h.base_eq hr hc.active
    obtain rfl : pod' = pod :=
      Option.some.inj ((h.hasPod hr hc.active hc.hasPod).symm.trans (h.pods hpod))
    rw [hsettled.not_patched hc hcons (hkey.trans (hw.key ht).symm) hstatus] at hflag
    cases hflag
  refine ⟨hquiet, ?_, ?_, h.stored (unpatched_of_not_patched hquiet)⟩
  · intro spec ans hcreate
    have hnone := (h.told hcreate).1
    rw [hpod] at hnone
    cases hnone
  · intro k ans halloc
    obtain ⟨hzero, hyes⟩ := h.told halloc
    rcases hsettled.port with hno | hno
    · exact hno hzero
    · rw [hno] at hyes
      cases hyes

/-- `Reconcile` of a live Tunnel that returns no error computes one status, patches it exactly if
it is not the one that was read, and leaves it in the store. Unless that status is Terminated, a
further `Reconcile` with the same answers patches nothing, creates no Pod, allocates no port and
leaves the revision as it is, whatever API calls fail. -/
theorem reconcile_reaches_fixed_point (r : TunnelReconciler) (req : NamespacedName) (a : Answers)
    {w : World} (hw : w.WF) (ha : w.allocator.WF) {t : Tunnel} (ht : w.tunnels.lookup req = some t)
    (hlive : t.Live) (c : ℕ → Choice) (result : Result)
    (hok : (reconcileAnswered r req a c w).1 = .ok result) :
    let first := reconcileAnswered r req a c w
    ∃ s : TunnelStatus,
      (∀ s', (∃ base pod allocated changed m e,
        Computed r req first.2.1 t base pod allocated changed m e ∧ e.tunnel.status = s') ↔
          s' = s) ∧
      (Patched first.2.1 ↔ s ≠ t.status) ∧
      (∃ t', first.2.2.tunnels.lookup req = some t' ∧ t'.status = s) ∧
      (s.phase ≠ .terminated → ∀ c' : ℕ → Choice,
        let second := reconcileAnswered r req a c' first.2.2
        ¬ Patched second.2.1 ∧ (∀ spec ans, ¬ Answered second.2.1 (.createPod spec) ans) ∧
          (∀ k ans, ¬ Answered second.2.1 (.allocate k) ans) ∧
          ∃ t', second.2.2.tunnels.lookup req = some t' ∧
            t'.status.mappingRevision = s.mappingRevision) := by
  intro first
  obtain ⟨hreturns, hr, h, hwf⟩ := reconcileAnswered_steady (r := r) (a := a) hw ha ht hlive c
  have hconf := reconcileAnswered_configured r req a c w
  change first.1 = .ok result at hok
  change Returns r req first.1 first.2.1 at hreturns
  rw [hok] at hreturns
  obtain ⟨base, pod, allocated, changed, m, e, t₁, hc, hpers⟩ := h.returns_computed hlive hreturns
  have hstored := h.leaves_status hr hconf hc hpers
  refine ⟨e.tunnel.status, fun s' => ⟨?_, ?_⟩, h.patched_iff hr hconf hc hpers, hstored, ?_⟩
  · rintro ⟨base', pod', allocated', changed', m', e', hc', rfl⟩
    exact h.computed_unique hr hconf hc hc'
  · rintro rfl
    exact ⟨base, pod, allocated, changed, m, e, hc, rfl⟩
  · intro hphase c'
    obtain ⟨t', ht', hs⟩ := hstored
    have hkey := (h.base_eq hr hc.active).1
    have hsettled : Settled r a t' pod :=
      hc.settled (h.consistent hconf) h.port_ne_zero ((hwf.key ht').trans hkey.symm) hs
    have hlive' : t'.Live := ⟨h.alive ht', by rwa [hs]⟩
    obtain ⟨h₁, h₂, h₃, t₂, ht₂, hs₂⟩ := settled_quiet hwf h.allocator ht' hlive'
      (h.hasPod hr hc.active hc.hasPod) hsettled c'
    exact ⟨h₁, h₂, h₃, t₂, ht₂, by rw [hs₂, hs]⟩

end Runs

/-- The answers in a cluster where nothing has been set up. -/
def silentAnswers : Answers :=
  fun op => (World.exec op {} (World.initial (PortAllocator.new 1 1))).1

/-- A new Tunnel is patched once. -/
theorem created_tunnel_settles :
    let first := reconcileAnswered provisioningReconciler key silentAnswers (fun _ => {})
      (createdWorld (PortAllocator.new 1 1))
    let second := reconcileAnswered provisioningReconciler key silentAnswers (fun _ => {}) first.2.2
    Patched first.2.1 ∧ ¬ Patched second.2.1 := by
  intro first second
  obtain ⟨s, -, hpatched, ⟨t', ht', hs⟩, hsecond⟩ := reconcile_reaches_fixed_point
    provisioningReconciler key silentAnswers (createdWorld_wf _) (PortAllocator.new_wf 1 1)
    (t := ⟨key, 0, 1, false, [], spec, {}⟩) rfl ⟨rfl, by decide⟩ (fun _ => {}) ⟨0⟩ rfl
  have hphase : s.phase = .provisioning := by
    rw [← hs]
    cases ht'
    rfl
  refine ⟨hpatched.mpr ?_, (hsecond ?_ _).1⟩
  · rintro rfl
    cases hphase
  · rw [hphase]
    decide

end TunnelOperator
