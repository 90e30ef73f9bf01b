import TunnelOperator.Balance
import TunnelOperator.HeldPorts

/-!
# The port gauge

`portAllocationsActive` goes up with every successful `Allocate` of a `Reconcile` and down with
every `Release`, whether or not the call changed the allocator, and not at all when ports are
restored at the start. So it differs from the number of keys held by the calls that changed
nothing and the restored keys, which are counted here beside the world.
-/

namespace TunnelOperator
open Interaction TunnelReconciler Scenario

/-- The world with the allocations answered from the table and the releases of keys without a
port. -/
structure Metered where
  world : World
  repeated : ℕ
  idle : ℕ

namespace Metered

def exec : (op : Op) → Choice → Metered → op.Ans × Metered
  | .allocate key, c, s =>
      ((World.exec (.allocate key) c s.world).1,
        { s with
          world := (World.exec (.allocate key) c s.world).2
          repeated := if (s.world.allocator.getPort key).isSome then s.repeated + 1
            else s.repeated })
  | .release key, c, s =>
      ((World.exec (.release key) c s.world).1,
        { s with
          world := (World.exec (.release key) c s.world).2
          idle := if (s.world.allocator.getPort key).isSome then s.idle else s.idle + 1 })
  | op, c, s => ((World.exec op c s.world).1, { s with world := (World.exec op c s.world).2 })

/-- A process that starts with the ports of `tunnels`, over any store. -/
def start (tunnels : List Tunnel) (minPort maxPort : Int) (w : World) : Metered where
  world := { w with
    allocator := loadExistingAllocations tunnels (PortAllocator.new minPort maxPort)
    portAllocationsActive := 0 }
  repeated := 0
  idle := 0

end Metered

def meteredOperator (r : TunnelReconciler) :
    Machine Op.Ans (Except String Result) NamespacedName Metered Choice World.Outside Empty where
  exec := Metered.exec
  program := r.reconcile
  onStart := fun _ s => s
  env := fun e s => (s.world.outside e).map fun w => { s with world := w }
  crash := fun k _ => nomatch k

def PortAllocator.held (a : PortAllocator) : ℕ := a.allocated.keys.length

def portWeight : Call Op.Ans → Int
  | ⟨.allocate _, .ok _⟩ => 1
  | ⟨.release _, _⟩ => -1
  | ⟨.portAllocationsActiveInc, _⟩ => -1
  | ⟨.portAllocationsActiveDec, _⟩ => 1
  | _ => 0

section Balanced

variable {α β : Type} {r : TunnelReconciler}

theorem portWeight_of_neutral {op : Op} (h : op.movesPorts = false) (ans : op.Ans) :
    portWeight ⟨op, ans⟩ = 0 := by
  cases op with
  | allocate k => cases h
  | release k => cases h
  | portAllocationsActiveInc => cases h
  | portAllocationsActiveDec => cases h
  | _ => rfl

theorem balanced_of_neutral {p : Prog α} (hp : p.Uses fun op => op.movesPorts = false) :
    p.Balanced portWeight :=
  hp.balanced fun _ h => portWeight_of_neutral h

theorem balanced_perform {op : Op} (h : op.movesPorts = false) : (perform op).Balanced portWeight :=
  balanced_of_neutral (Program.uses_perform h)

theorem balanced_of_quiet {p : Prog α} (hp : p.Uses (Quiet r)) : p.Balanced portWeight :=
  hp.balanced fun _ h => portWeight_of_neutral h.neutral

theorem balanced_orReturn {p : Prog (Except String α)} {f : α → Prog (Except String β)}
    (hp : p.Balanced portWeight) (hf : ∀ a, (f a).Balanced portWeight) :
    (orReturn p f).Balanced portWeight := by
  refine hp.bind fun x => ?_
  cases x with
  | error e => exact Program.balanced_pure _
  | ok a => exact hf a

theorem balanced_attempt {context : String} {p : Prog (Except ApiError α)}
    (hp : p.Balanced portWeight) :
    (attempt context p).Balanced portWeight := by
  refine hp.bind fun x => ?_
  cases x <;> exact Program.balanced_pure _

theorem releaseForwarderPort_balanced (t : Tunnel) :
    (r.releaseForwarderPort t).Balanced portWeight := by
  unfold releaseForwarderPort
  split_ifs
  · exact Program.balanced_pure _
  · exact Program.Adds.bind (Program.perform_adds _) fun _ => Program.perform_adds _

theorem assignPort_balanced (t : Tunnel) : (r.assignPort t).Balanced portWeight := by
  unfold assignPort
  split_ifs
  · refine Program.Adds.bind (Program.perform_adds _) fun ans => ?_
    cases ans with
    | error e => exact Program.balanced_pure _
    | ok port =>
        exact Program.Adds.bind (Program.perform_adds _) fun _ => Program.balanced_pure _
  · exact Program.balanced_pure _

theorem deleteGatewayResources_balanced (t : Tunnel) :
    (deleteGatewayResources t).Balanced portWeight :=
  balanced_of_neutral (deleteGatewayResources_uses t rfl rfl)

theorem notifyTunnelUpdate_balanced (t : Tunnel) (type : UpdateType) :
    (r.notifyTunnelUpdate t type).Balanced portWeight :=
  balanced_of_neutral (notifyTunnelUpdate_uses t type fun _ _ _ => rfl)

theorem handleDeletion_balanced (t : Tunnel) : (r.handleDeletion t).Balanced portWeight := by
  unfold handleDeletion
  split_ifs
  · apply balanced_orReturn (deleteGatewayResources_balanced t)
    intro _
    apply balanced_orReturn (balanced_attempt (balanced_perform rfl))
    intro t'
    apply (releaseForwarderPort_balanced t').bind
    intro _
    exact (notifyTunnelUpdate_balanced t' _).bind fun _ => Program.balanced_pure _
  · exact (releaseForwarderPort_balanced t).bind fun _ => Program.balanced_pure _

theorem handleTerminated_balanced (t : Tunnel) : (r.handleTerminated t).Balanced portWeight := by
  have hdrop : (dropFinalizer t).Balanced portWeight := by
    unfold dropFinalizer
    split_ifs
    · exact balanced_attempt (balanced_perform rfl)
    · exact Program.balanced_pure _
  have hdelete : ∀ k, (perform (.deleteTunnel k)).Balanced portWeight :=
    fun _ => balanced_perform rfl
  apply balanced_orReturn (deleteGatewayResources_balanced t)
  intro _
  apply balanced_orReturn hdrop
  intro t'
  apply (releaseForwarderPort_balanced t').bind
  intro _
  apply (notifyTunnelUpdate_balanced t' _).bind
  intro _
  apply (hdelete t'.key).bind
  intro ans
  cases ans <;> exact Program.balanced_pure _

theorem persistStatus_balanced (e : Evaluation) (base : Tunnel) (changed : Bool)
    (type : UpdateType) :
    (r.persistStatus e base changed type).Balanced portWeight := by
  unfold persistStatus
  split_ifs
  · apply balanced_orReturn (balanced_attempt (balanced_perform rfl))
    intro t
    exact (notifyTunnelUpdate_balanced t _).bind fun _ => Program.balanced_pure _
  · apply balanced_orReturn (balanced_attempt (balanced_perform rfl))
    intro t
    exact Program.balanced_pure _
  · exact Program.balanced_pure _

theorem republish_balanced (t : Tunnel) : (r.republish t).Balanced portWeight := by
  unfold republish
  split_ifs
  · exact notifyTunnelUpdate_balanced t _
  · exact Program.balanced_pure _

theorem reconcileStatus_balanced (base : Tunnel) (pod : Pod) :
    (r.reconcileStatus base pod).Balanced portWeight := by
  apply balanced_orReturn (assignPort_balanced base)
  rintro ⟨t, allocated⟩
  apply (balanced_of_quiet (evaluatePodPhase_uses _ pod)).bind
  intro e
  apply balanced_orReturn (persistStatus_balanced e base _ _)
  intro t'
  exact (republish_balanced t').bind fun _ => Program.balanced_pure _

/-- Every `Reconcile` moves the gauge with its successful allocations and its releases, however
it ends. -/
theorem reconcile_balanced (r : TunnelReconciler) (req : NamespacedName) :
    (r.reconcile req).Balanced portWeight := by
  have hget : (perform (.getTunnel req)).Balanced portWeight := balanced_perform rfl
  have hdone : ∀ {p : Prog (Except String Unit)}, p.Balanced portWeight →
      (done p).Balanced portWeight :=
    fun hp => balanced_orReturn hp fun _ => Program.balanced_pure _
  apply hget.bind
  intro ans
  cases ans with
  | error e => exact hdone (Program.balanced_pure _)
  | ok t =>
      simp only
      split_ifs
      · exact hdone (handleDeletion_balanced t)
      · exact hdone (handleTerminated_balanced t)
      · cases validateTunnelTarget t.spec.target with
        | error err => exact Program.balanced_pure _
        | ok _ =>
            apply balanced_orReturn (balanced_of_quiet (r := r) (ensureFinalizer_uses t))
            intro base
            apply balanced_orReturn (balanced_of_quiet (ensureGatewayPod_uses base))
            intro pod
            apply balanced_orReturn (balanced_of_quiet (r := r) (ensureNetworkPolicy_uses base))
            intro _
            exact reconcileStatus_balanced base pod

end Balanced

section Accounts

variable {w w' : World} {op : Op} {c : Choice}

theorem World.writeTunnel_gauge (key : NamespacedName) (change : Tunnel → Except ApiError Tunnel)
    (w : World) :
    (w.writeTunnel key change).2.portAllocationsActive = w.portAllocationsActive := by
  refine World.writeTunnel_state (P := fun w' => w'.portAllocationsActive = w.portAllocationsActive)
    rfl fun _ t _ _ => ?_
  unfold World.storeTunnel
  split_ifs <;> rfl

theorem World.exec_gauge (h : op.movesPorts = false) (c : Choice) (w : World) :
    (World.exec op c w).2.portAllocationsActive = w.portAllocationsActive := by
  have hwrite : ∀ {α : Type} {res : Except ApiError α × World},
      res.2.portAllocationsActive = w.portAllocationsActive →
      (World.writeResult c w res).2.portAllocationsActive = w.portAllocationsActive :=
    fun h => World.writeResult_state (P := fun w' =>
      w'.portAllocationsActive = w.portAllocationsActive) rfl h
  cases op with
  | updateTunnel t => exact hwrite (World.writeTunnel_gauge _ _ w)
  | patchStatus t base => exact hwrite (World.writeTunnel_gauge _ _ w)
  | deleteTunnel k => exact hwrite (World.writeTunnel_gauge _ _ w)
  | createPod pod => exact hwrite (by unfold World.createPod; split <;> rfl)
  | deletePod k => exact hwrite (by unfold World.deletePod; cases c.podLingers <;> split <;> rfl)
  | createNetworkPolicy p => exact hwrite (by unfold World.createNetworkPolicy; split <;> rfl)
  | updateNetworkPolicy p => exact hwrite (by unfold World.updateNetworkPolicy; split <;> rfl)
  | deleteNetworkPolicy k => exact hwrite (by unfold World.deleteNetworkPolicy; split <;> rfl)
  | fetchGatewayStatus pod =>
      change (World.recordFetch pod c.gatewayStatus w).portAllocationsActive = _
      cases c.gatewayStatus <;> rfl
  | allocate k => cases h
  | release k => cases h
  | portAllocationsActiveInc => cases h
  | portAllocationsActiveDec => cases h
  | _ => rfl

theorem World.outside_gauge {e : World.Outside} (h : w.outside e = some w') :
    w'.portAllocationsActive = w.portAllocationsActive := by
  rcases World.outside_cases h with ⟨key, finalizers, spec, -, hc⟩ | ⟨key, change, rfl, -⟩ |
    ⟨pods, rfl, -⟩
  · obtain ⟨-, rfl⟩ := World.createTunnel_eq hc
    rfl
  · exact World.writeTunnel_gauge _ _ w
  · rfl

variable {a : PortAllocator} {k : String}

theorem PortAllocator.held_insert {p : Int} (h : a.allocated.lookup k = none) :
    (a.allocated.insert k p).keys.length = a.held + 1 := by
  have hnot : k ∉ a.allocated.keys := by
    rwa [← AList.mem_keys, ← AList.lookup_eq_none]
  rw [AList.keys_insert, List.length_cons, List.erase_of_not_mem hnot, PortAllocator.held]

theorem PortAllocator.held_release {p : Int} (h : a.allocated.lookup k = some p) :
    (a.release k).held + 1 = a.held := by
  have hmem : k ∈ a.allocated.keys := (Table.mem_keys_iff _ _).mpr ⟨p, h⟩
  have hpos : 0 < a.allocated.keys.length := List.length_pos_of_mem hmem
  simp only [PortAllocator.release, h, PortAllocator.held, AList.keys_erase,
    List.length_erase_of_mem hmem]
  omega

theorem PortAllocator.release_absent (h : a.allocated.lookup k = none) : a.release k = a := by
  simp only [PortAllocator.release, h]

/-- The books of a process: calls under way are `ahead` of the gauge. -/
structure Accounted (restored : ℕ) (ahead : Int) (s : Metered) : Prop where
  allocator : s.world.allocator.WF
  accounts : s.world.portAllocationsActive + s.idle + restored + ahead =
    s.world.allocator.held + s.repeated

variable {restored : ℕ} {ahead : Int} {s : Metered}

theorem Accounted.allocate (h : Accounted restored ahead s) (key : String) (c : Choice) :
    Accounted restored (ahead + portWeight ⟨.allocate key, (Metered.exec (.allocate key) c s).1⟩)
      (Metered.exec (.allocate key) c s).2 := by
  refine ⟨PortAllocator.allocate_wf h.allocator c.start key, ?_⟩
  have haccounts := h.accounts
  have hcases := PortAllocator.allocate_cases h.allocator c.start key
  simp only [Metered.exec, World.exec, PortAllocator.getPort]
  rcases hcases with ⟨e, he⟩ | ⟨p, he, hp⟩ | ⟨p, he, hnone, -⟩
  · have hnone : s.world.allocator.allocated.lookup key = none := by
      rw [Option.eq_none_iff_forall_ne_some]
      intro p hp
      simp [PortAllocator.allocate, hp] at he
    simp only [he, hnone, portWeight, Option.isSome_none, Bool.false_eq_true, if_false]
    omega
  · simp only [he, hp, portWeight, Option.isSome_some, if_true]
    push_cast
    omega
  · simp only [he, hnone, portWeight, Option.isSome_none, Bool.false_eq_true, if_false]
    have hheld := PortAllocator.held_insert (p := p) hnone
    simp only [PortAllocator.held] at haccounts hheld ⊢
    omega

theorem Accounted.release (h : Accounted restored ahead s) (key : String) (c : Choice) :
    Accounted restored (ahead + portWeight ⟨.release key, (Metered.exec (.release key) c s).1⟩)
      (Metered.exec (.release key) c s).2 := by
  refine ⟨PortAllocator.release_wf h.allocator key, ?_⟩
  have haccounts := h.accounts
  simp only [Metered.exec, World.exec, PortAllocator.getPort, portWeight]
  rcases Option.eq_none_or_eq_some (s.world.allocator.allocated.lookup key) with hp | ⟨p, hp⟩
  · simp only [PortAllocator.release_absent hp, hp, Option.isSome_none, Bool.false_eq_true,
      if_false]
    omega
  · have hheld := PortAllocator.held_release hp
    simp only [hp, Option.isSome_some, if_true]
    omega

theorem Metered.exec_neutral (h : op.movesPorts = false) (c : Choice) (s : Metered) :
    Metered.exec op c s = ((World.exec op c s.world).1,
      { s with world := (World.exec op c s.world).2 }) := by
  cases op with
  | allocate k => cases h
  | release k => cases h
  | _ => rfl

theorem Accounted.step (h : Accounted restored ahead s) (op : Op) (c : Choice) :
    Accounted restored (ahead + portWeight ⟨op, (Metered.exec op c s).1⟩)
      (Metered.exec op c s).2 := by
  cases hop : op.movesPorts with
  | false =>
      rw [portWeight_of_neutral hop, add_zero, Metered.exec_neutral hop]
      have halloc : (World.exec op c s.world).2.allocator = s.world.allocator :=
        World.exec_allocator (fun k hk => by subst hk; cases hop) (fun k hk => by
          subst hk; cases hop) c s.world
      exact ⟨halloc ▸ h.allocator, by rw [World.exec_gauge hop, halloc]; exact h.accounts⟩
  | true =>
      cases op with
      | allocate k => exact h.allocate k c
      | release k => exact h.release k c
      | portAllocationsActiveInc =>
          refine ⟨h.allocator, ?_⟩
          have haccounts := h.accounts
          simp only [Metered.exec, World.exec, portWeight]
          omega
      | portAllocationsActiveDec =>
          refine ⟨h.allocator, ?_⟩
          have haccounts := h.accounts
          simp only [Metered.exec, World.exec, portWeight]
          omega
      | _ => cases hop

theorem Accounted.outside (h : Accounted restored ahead s) {e : World.Outside}
    (hw : s.world.outside e = some w') : Accounted restored ahead { s with world := w' } := by
  have halloc := (World.outside_sameProcess hw).allocator
  refine ⟨halloc ▸ h.allocator, ?_⟩
  rw [World.outside_gauge hw, halloc]
  exact h.accounts

theorem loadExistingAllocations_wf (tunnels : List Tunnel) (h : a.WF) :
    (loadExistingAllocations tunnels a).WF := by
  induction tunnels generalizing a with
  | nil => exact h
  | cons t tunnels ih =>
      rw [loadExistingAllocations, List.foldl_cons]
      split_ifs
      · exact ih h
      · exact ih (PortAllocator.loadExisting_wf h _ _)

end Accounts

/-- Between any two reconciliations of a process, the gauge shows the number of keys held exactly
if the allocations that were answered from the table make up for the releases of keys without a
port and for the keys restored at the start. -/
theorem port_gauge_true_iff (r : TunnelReconciler) (tunnels : List Tunnel) (minPort maxPort : Int)
    (w : World) {g : Config Op.Ans (Except String Result) NamespacedName Metered}
    (hg : (meteredOperator r).Reaches {} (Metered.start tunnels minPort maxPort w) g)
    (hidle : g.thread = none) :
    g.state.world.portAllocationsActive = g.state.world.allocator.held ↔
      g.state.repeated = g.state.idle +
        (loadExistingAllocations tunnels (PortAllocator.new minPort maxPort)).held := by
  let restored := (loadExistingAllocations tunnels (PortAllocator.new minPort maxPort)).held
  have hstart : Accounted restored 0 (Metered.start tunnels minPort maxPort w) :=
    ⟨loadExistingAllocations_wf tunnels (PortAllocator.new_wf _ _), by
      simp [Metered.start, restored]⟩
  have hrun := Machine.reaches_between (M := meteredOperator r) (I := Accounted restored 0)
    (A := fun _ tr s => Accounted restored (balance portWeight tr) s)
    (fun req => reconcile_balanced r req []) (fun e s s' _ he => ?_) (fun k => nomatch k)
    (fun req s h => h) (fun req tr op c s ans s' _ h he _ => ?_)
    (fun req a tr s hpost h => ?_) hstart hg
  · have haccounts := (hrun.1 hidle).accounts
    omega
  · obtain ⟨w', hw', rfl⟩ := Option.map_eq_some_iff.mp he
    exact ⟨fun h => h.outside hw', fun req tr h => h.outside hw'⟩
  · have hstep := h.step op c
    change Metered.exec op c s = (ans, s') at he
    rw [he] at hstep
    rwa [balance_concat]
  · rwa [hpost] at h

def reads (gauge : Int) (held : ℕ)
    (g : Config Op.Ans (Except String Result) NamespacedName Metered) : Bool :=
  g.thread.isNone && g.state.world.portAllocationsActive = gauge &&
    g.state.world.allocator.held = held

/-- A first allocation is counted. -/
theorem port_gauge_true_created : ∃ g,
    (meteredOperator provisioningReconciler).Reaches {}
      (Metered.start [] 1 2 (createdWorld (PortAllocator.new 1 2))) g ∧
      g.thread = none ∧ g.state.world.portAllocationsActive = g.state.world.allocator.held := by
  obtain ⟨g, hg, hP⟩ := Machine.exists_free_reaches (M := meteredOperator provisioningReconciler)
    (s := Metered.start [] 1 2 (createdWorld (PortAllocator.new 1 2)))
    (l := .start key :: calls 10)
    (P := fun g => g.thread.isNone && g.state.repeated = 0 && g.state.idle = 0) (by rfl)
  simp only [Bool.and_eq_true, decide_eq_true_eq, Option.isNone_iff_eq_none] at hP
  refine ⟨g, hg, hP.1.1, (port_gauge_true_iff provisioningReconciler [] 1 2 _ hg hP.1.1).mpr ?_⟩
  rw [hP.1.2, hP.2]
  rfl

def worldOf (t : Tunnel) : World :=
  { createdWorld (PortAllocator.new 1 2) with tunnels := AList.insert key t ∅ }

/-- A Tunnel whose port was recorded by an earlier process. -/
def recordedTunnel : Tunnel := ⟨key, 0, 1, false, [finalizerName], spec, { forwarderPort := 1 }⟩

def sharedTunnel : Tunnel := ⟨key, 0, 1, false, ["example.com/other"], spec, {}⟩

/-- A restored port is not counted, an allocation that is repeated after a failed status patch is
counted twice, and a deleted Tunnel that is reconciled twice is taken off twice. -/
theorem port_gauge_drifts :
    (∃ g, (meteredOperator provisioningReconciler).Reaches {}
        (Metered.start [recordedTunnel] 1 2 (worldOf recordedTunnel)) g ∧ reads 0 1 g = true) ∧
      (∃ g, (meteredOperator provisioningReconciler).Reaches {}
        (Metered.start [] 1 2 (createdWorld (PortAllocator.new 1 2))) g ∧ reads 2 1 g = true) ∧
      ∃ g, (meteredOperator provisioningReconciler).Reaches {}
        (Metered.start [] 1 2 (worldOf sharedTunnel)) g ∧ reads (-1) 0 g = true := by
  refine ⟨?_, ?_, ?_⟩
  · exact Machine.exists_free_reaches (l := .start key :: calls 7) (by rfl)
  · exact Machine.exists_free_reaches (l := .start key :: calls 8 ++
      [.call { failure := some "conflict" }, .call {}] ++ .start key :: calls 7) (by rfl)
  · exact Machine.exists_free_reaches (l := .start key :: calls 10 ++ [.env (.deleteTunnel key)] ++
      .start key :: calls 7 ++ .start key :: calls 4) (by rfl)

end TunnelOperator
