import TunnelOperator.Interleaving
import TunnelOperator.ComputedStatus

/-!
# Runs of the operator

The manager runs one `Reconcile` at a time, users and the kubelet act at any point, and the
operator may be restarted, which kills the running `Reconcile` and refills a new allocator
with `loadExistingAllocations`.
-/

namespace TunnelOperator
open Interaction

def loadExistingAllocations (tunnels : List Tunnel) (allocator : PortAllocator) : PortAllocator :=
  tunnels.foldl (fun a tunnel =>
    if tunnel.status.forwarderPort ≤ 0 then a
    else a.loadExisting (tunnelKey tunnel.key) tunnel.status.forwarderPort) allocator

/-- A restart. The listing fails, or returns every Tunnel in some order. -/
def World.restart (minPort maxPort : Int) (listed : Option (List Tunnel)) (w : World) :
    Option World :=
  match listed with
  | none => some { w with
      allocator := PortAllocator.new minPort maxPort, portAllocationsActive := 0 }
  | some tunnels =>
      if tunnels.isPerm w.tunnels.values then
        some { w with
          allocator := loadExistingAllocations tunnels (PortAllocator.new minPort maxPort)
          portAllocationsActive := 0 }
      else none

theorem World.restart_sameTunnels {minPort maxPort : Int} {listed : Option (List Tunnel)}
    {w w' : World} (h : w.restart minPort maxPort listed = some w') :
    w.SameTunnels w' ∧ w'.published = w.published ∧ w'.fetched = w.fetched := by
  unfold World.restart at h
  split at h
  · cases h
    exact ⟨⟨rfl, rfl, rfl⟩, rfl, rfl⟩
  · split_ifs at h
    cases h
    exact ⟨⟨rfl, rfl, rfl⟩, rfl, rfl⟩

def operator (r : TunnelReconciler) (minPort maxPort : Int) :
    Machine Op.Ans (Except String Result) NamespacedName World Choice World.Outside
      (Option (List Tunnel)) where
  exec := World.exec
  program := r.reconcile
  onStart := fun _ w => w
  env := fun e w => w.outside e
  crash := World.restart minPort maxPort

theorem World.initial_wf (a : PortAllocator) : (World.initial a).WF := by
  constructor <;> simp [World.initial]

/-- The proof rule for properties of runs. `A` is the assertion of a running reconciliation
besides `Reads`; the environment has to keep it, and so has every call that `Next` admits. -/
theorem reconcile_safe {σ χ : Type} {D : Discipline Op.Ans σ χ} {w : σ → World}
    (r : TunnelReconciler) (req : NamespacedName)
    (hexec : ∀ {op c s ans s'}, D.exec op c s = (ans, s') →
      ∃ c', World.exec op c' (w s) = (ans, w s'))
    (hwf : ∀ {s}, D.inv s → (w s).WF)
    (hrely : ∀ {s s'}, D.rely s s' → (w s).Evolves (w s'))
    {A : Trace → σ → Prop}
    (hA : ∀ {tr s s'}, A tr s → D.rely s s' → D.inv s' → A tr s')
    (hop : ∀ {tr op c s ans s'}, TunnelReconciler.Next r req tr op → PatchesOnce r tr op →
      Reads req tr (w s) → A tr s → D.inv s → D.exec op c s = (ans, s') →
      D.allowed (tr ++ [⟨op, ans⟩]) s → D.inv s' ∧ D.goal (tr ++ [⟨op, ans⟩]) s s' ∧
        A (tr ++ [⟨op, ans⟩]) s')
    {s : σ} (h₀ : A [] s) :
    D.Safe (fun x tr s => TunnelReconciler.Returns r req x tr ∧ Reads req tr (w s) ∧ A tr s)
      (r.reconcile req) [] s := by
  refine Discipline.Safe.of_traces (A := fun tr s => Reads req tr (w s) ∧ A tr s) ?_ ?_
    (TunnelReconciler.reconcile_logic r req) ⟨Reads.nil req _, h₀⟩
  · exact fun tr s s' h hr hi => ⟨h.1.evolves (hrely hr), hA h.2 hr hi⟩
  · intro tr op hP c s ans s' h hi he ha
    obtain ⟨hi', hg, hA'⟩ := hop hP.1 hP.2 h.1 h.2 hi he ha
    obtain ⟨c', he'⟩ := hexec he
    exact ⟨hi', hg, h.1.step (hwf hi) hP he', hA'⟩

/-- The proof rule for one undisturbed `Reconcile`: an assertion about trace and store that every
admitted call keeps holds when it returns. -/
theorem reconcile_run {exec : (op : Op) → Choice → World → op.Ans × World} (r : TunnelReconciler)
    (req : NamespacedName)
    (hexec : ∀ {op c w ans w'}, exec op c w = (ans, w') → ∃ c', World.exec op c' w = (ans, w'))
    {A : Trace → World → Prop}
    (hop : ∀ {tr op c w ans w'}, TunnelReconciler.Next r req tr op → PatchesOnce r tr op →
      Reads req tr w → A tr w → w.WF → exec op c w = (ans, w') → A (tr ++ [⟨op, ans⟩]) w')
    {w : World} (hw : w.WF) (h₀ : A [] w) (c : ℕ → Choice) :
    (TunnelReconciler.Returns r req ((r.reconcile req).run exec c [] w).1
        ((r.reconcile req).run exec c [] w).2.1 ∧
      Reads req ((r.reconcile req).run exec c [] w).2.1 ((r.reconcile req).run exec c [] w).2.2 ∧
      A ((r.reconcile req).run exec c [] w).2.1 ((r.reconcile req).run exec c [] w).2.2) ∧
    ((r.reconcile req).run exec c [] w).2.2.WF := by
  let D : Discipline Op.Ans World Choice :=
    { exec := exec, allowed := fun _ _ => True, inv := World.WF, rely := fun w w' => w' = w
      goal := fun _ _ _ => True, rely_refl := fun _ => rfl, rely_trans := fun h h' => h'.trans h }
  refine (reconcile_safe (D := D) (w := id) (A := A) r req (fun he => hexec he) (fun hi => hi)
    (fun hrely => hrely ▸ World.Evolves.refl _) (fun h hrely _ => hrely ▸ h)
    (fun {tr op c s ans s'} hn hp hr h hi he _ => ⟨?_, trivial, hop hn hp hr h hi he⟩) h₀).run
    (fun _ _ => trivial) hw c
  obtain ⟨c', he'⟩ := hexec he
  have hwf := World.exec_wf hi op c'
  rwa [he'] at hwf

theorem World.Follows.forall_status {w w' : World} (h : w.Follows w') {P : TunnelStatus → Prop}
    (h₀ : P {}) (hw : ∀ {k t}, w.tunnels.lookup k = some t → P t.status) {k : NamespacedName}
    {t' : Tunnel} (ht : w'.tunnels.lookup k = some t') : P t'.status := by
  rcases h.back ht with ⟨t, ht, hl⟩ | ⟨-, -, hs⟩
  · exact hl.status ▸ hw ht
  · exact hs ▸ h₀

theorem World.storeTunnel_forall_status {w : World} {t : Tunnel} {P : TunnelStatus → Prop}
    (hw : ∀ {k t}, w.tunnels.lookup k = some t → P t.status) (h : P t.status) {k : NamespacedName}
    {t' : Tunnel} (ht : (w.storeTunnel t).tunnels.lookup k = some t') : P t'.status := by
  rcases World.storeTunnel_found ht with ⟨-, rfl⟩ | ⟨-, ht⟩
  · exact h
  · exact hw ht

theorem World.exec_fetched_subset (op : Op) (c : Choice) (w : World) :
    w.fetched ⊆ (World.exec op c w).2.fetched := by
  cases h : op.isLocal with
  | false => rw [(World.exec_sameProcess h c w).fetched]; exact fun _ hx => hx
  | true =>
      cases op with
      | fetchGatewayStatus pod =>
          cases hs : c.gatewayStatus <;> simp [World.exec, World.recordFetch, hs]
      | allocate k => exact fun _ hx => hx
      | release k => exact fun _ hx => hx
      | notifyUpdate u => exact fun _ hx => hx
      | _ => cases h

/-! Objects for the concrete runs of later modules. -/

namespace Scenario

def key : NamespacedName := ⟨"team", "a", by decide⟩

def otherKey : NamespacedName := ⟨"team", "b", by decide⟩

def spec : TunnelSpec := ⟨⟨"db", 5432, "10.0.0.1", none⟩, "client-key", none⟩

def running (ip : String) : PodStatus := ⟨.running, ip, [⟨.ready, .isTrue⟩]⟩

def calls {ρ ε κ : Type} (n : ℕ) : List (Event ρ Choice ε κ) := List.replicate n (.call {})

def provisioningReconciler : TunnelReconciler := ⟨true, false, ⟨"", ""⟩, "", "", ""⟩

/-- The store in which only the Tunnel `key` has just been created. -/
def createdWorld (allocator : PortAllocator) : World :=
  { World.initial allocator with
    tunnels := AList.insert key ⟨key, 0, 1, false, [], spec, {}⟩ ∅
    nextUid := 1
    version := 1 }

theorem createdWorld_wf (allocator : PortAllocator) : (createdWorld allocator).WF :=
  (World.createTunnel_evolves (World.initial_wf allocator)
    (show (World.initial allocator).createTunnel key [] spec =
      some (createdWorld allocator) from rfl)).1

end Scenario

end TunnelOperator
