import TunnelOperator.PortExclusive

/-!
# Live Tunnels never share a port

The steps outside `Reconcile` keep the port invariant: users, `GetConfig` calls in flight
and restarts. Together with the steps of `Reconcile` this makes the recorded ports of live
Tunnels distinct in every run that meets `keepsPorts`; two runs show what goes wrong
without it.
-/

namespace TunnelOperator
open Interaction TunnelReconciler Scenario

variable {lo hi : Int}

theorem World.serverExec_cases (op : ServerOp) (c : ServerChoice) (w : World) :
    (World.serverExec op c w).2 = w ∨ ∃ key port, op = .loadExisting key port ∧
      (World.serverExec op c w).2 = { w with allocator := w.allocator.loadExisting key port } := by
  cases op with
  | loadExisting key port => exact Or.inr ⟨key, port, rfl, rfl⟩
  | _ => exact Or.inl rfl

theorem Serving.serve_keeps {i : ℕ} {c : ServerChoice} {s s' : Serving}
    (hinv : PortInvariant lo hi s.world) (hcond : loadsCurrent i s = true)
    (h : s.serve i c = some s') :
    PortInvariant lo hi s'.world ∧ s.world.Evolves s'.world ∧
      KeepsHeld s.world.allocator s'.world.allocator := by
  have hsame : PortInvariant lo hi s.world ∧ s.world.Evolves s.world ∧
      KeepsHeld s.world.allocator s.world.allocator := ⟨hinv, World.Evolves.refl _, fun _ _ h => h⟩
  unfold Serving.serve at h
  split at h
  · cases h
  · cases h
    exact hsame
  · rename_i op next hcall
    cases h
    rcases World.serverExec_cases op c s.world with he | ⟨key, port, rfl, he⟩
    · simp only [he]
      exact hsame
    · have hk : KeepsHeld s.world.allocator (s.world.allocator.loadExisting key port) := by
        refine loadExisting_keepsHeld hinv.allocator fun q hq => ?_
        simpa [loadsCurrent, hcall, PortAllocator.getPort, hq] using hcond
      obtain ⟨hmin, hmax⟩ := s.world.allocator.loadExisting_range key port
      have hs : s.world.SameTunnels
          { s.world with allocator := s.world.allocator.loadExisting key port } := ⟨rfl, rfl, rfl⟩
      simp only [he]
      exact ⟨hinv.follows (hs.wf hinv.wf) hs.evolves.toFollows
        (PortAllocator.loadExisting_wf hinv.allocator _ _) hmin hmax hk, hs.evolves, hk⟩

theorem Serving.outside_keeps {cfg : ServerConfig} {e : Serving.Outside} {s s' : Serving}
    (hinv : PortInvariant lo hi s.world) (hcond : keepsPorts.env e s)
    (h : s.outside cfg e = some s') :
    PortInvariant lo hi s'.world ∧ s.world.Evolves s'.world ∧
      KeepsHeld s.world.allocator s'.world.allocator := by
  cases e with
  | cluster e =>
      obtain ⟨w, hw, rfl⟩ := Option.map_eq_some_iff.mp h
      obtain ⟨hwf, hev⟩ := World.outside_evolves hinv.wf hw
      have ha := (World.outside_sameProcess hw).allocator
      refine ⟨hinv.sameAllocator hwf hev.toFollows ha, hev, ?_⟩
      simp only [ha]
      exact fun _ _ h => h
  | getConfig =>
      cases h
      exact ⟨hinv, World.Evolves.refl _, fun _ _ h => h⟩
  | serve i c => exact Serving.serve_keeps hinv hcond h

theorem PortInvariant.restart {minPort maxPort : Int} {listed : List Tunnel} {w w' : World}
    (h : PortInvariant (PortAllocator.new minPort maxPort).minPort
      (PortAllocator.new minPort maxPort).maxPort w)
    (hcond : ListsOutgoingLast listed) (he : w.restart minPort maxPort (some listed) = some w') :
    PortInvariant (PortAllocator.new minPort maxPort).minPort
      (PortAllocator.new minPort maxPort).maxPort w' := by
  have hs := (World.restart_sameTunnels he).1
  simp only [World.restart] at he
  split_ifs at he with hperm
  cases he
  have hperm : listed.Perm w.tunnels.values := List.isPerm_iff.mp hperm
  have hkeys : (listed.map (·.key)).Nodup :=
    (hperm.map _).nodup_iff.mpr (World.values_keys_nodup h.wf)
  have hstored : ∀ {t}, t ∈ listed → w.tunnels.lookup t.key = some t := by
    intro t ht
    obtain ⟨k, hk⟩ := (Table.mem_values_iff _ _).mp (hperm.mem_iff.mp ht)
    rwa [h.wf.key hk]
  have hports : PortsUnclaimed listed := by
    refine ((hcond.and (List.pairwise_map.mp hkeys)).imp_of_mem ?_)
    intro t' t ht' ht hpair hl hp heq
    by_cases hl' : t'.Live
    · have h₁ := h.holds (hstored ht') hl' (heq ▸ hp)
      have h₂ := h.holds (hstored ht) hl hp
      rw [heq] at h₁
      have hk := ((h.allocator.inverse _ _).mp h₁).symm.trans ((h.allocator.inverse _ _).mp h₂)
      exact hpair.2 (tunnelKey_injective (Option.some.inj hk))
    · exact hpair.1 hl' hl hp heq
  have hempty : Loaded (PortAllocator.new minPort maxPort).minPort
      (PortAllocator.new minPort maxPort).maxPort [] (PortAllocator.new minPort maxPort) :=
    ⟨PortAllocator.new_wf _ _, rfl, rfl,
      fun hk => (by rw [PortAllocator.new_allocated] at hk; cases hk), fun ht => (by cases ht)⟩
  have hrange : ∀ t ∈ listed, t.Live → t.status.forwarderPort ≠ 0 →
      (PortAllocator.new minPort maxPort).minPort ≤ t.status.forwarderPort ∧
        t.status.forwarderPort ≤ (PortAllocator.new minPort maxPort).maxPort := by
    intro t ht hl hp
    rw [← h.minPort, ← h.maxPort]
    exact h.allocator.inRange _ _ (h.holds (hstored ht) hl hp)
  have hloaded := loadExistingAllocations_loaded hempty hkeys hrange hports
  refine ⟨hs.wf h.wf, hloaded.wf, hloaded.minPort, hloaded.maxPort, fun {k t} ht hl => ?_⟩
  exact hloaded.holds (hperm.mem_iff.mpr ((Table.mem_values_iff _ _).mpr ⟨k, ht⟩)) hl

theorem initial_portInvariant (minPort maxPort : Int) :
    PortInvariant (PortAllocator.new minPort maxPort).minPort
      (PortAllocator.new minPort maxPort).maxPort
      (World.initial (PortAllocator.new minPort maxPort)) where
  wf := World.initial_wf _
  allocator := PortAllocator.new_wf _ _
  minPort := rfl
  maxPort := rfl
  holds := by simp [World.initial]

/-- In every run in which `LoadExisting` moves no Tunnel away from its port and restarts load
outgoing Tunnels last, two live Tunnels with the same port are the same Tunnel. -/
theorem live_tunnels_have_distinct_ports (r : TunnelReconciler) (cfg : ServerConfig)
    (minPort maxPort : Int) {g : Config Op.Ans (Except String Result) NamespacedName Serving}
    (hg : (servingOperator r cfg minPort maxPort).Reaches keepsPorts
      ⟨World.initial (PortAllocator.new minPort maxPort), []⟩ g)
    {k k' : NamespacedName} {t t' : Tunnel} (ht : g.state.world.tunnels.lookup k = some t)
    (ht' : g.state.world.tunnels.lookup k' = some t') (hl : t.Live) (hl' : t'.Live)
    (hport : t.status.forwarderPort ≠ 0)
    (hsame : t'.status.forwarderPort = t.status.forwarderPort) :
    k' = k := by
  have hsafe := Machine.reaches_safe (M := servingOperator r cfg minPort maxPort)
    (D := portDiscipline (PortAllocator.new minPort maxPort).minPort
      (PortAllocator.new minPort maxPort).maxPort)
    (C := keepsPorts) (s := ⟨World.initial (PortAllocator.new minPort maxPort), []⟩)
    rfl (fun _ _ _ => trivial) (fun e s s' hc hi he => ?_)
    (fun listed s s' hc hi he => ?_) (fun req s hi => ⟨hi, ?_⟩) (initial_portInvariant _ _) hg
  · have hinv : PortInvariant _ _ g.state.world := hsafe.1
    have h₁ := hinv.holds ht hl hport
    have h₂ := hinv.holds ht' hl' (hsame ▸ hport)
    rw [hsame] at h₂
    have hk := ((hinv.allocator.inverse _ _).mp h₂).symm.trans ((hinv.allocator.inverse _ _).mp h₁)
    rw [← hinv.wf.key ht, ← hinv.wf.key ht']
    exact tunnelKey_injective (Option.some.inj hk)
  · obtain ⟨hinv, hev, hk⟩ := Serving.outside_keeps hi hc he
    exact ⟨hinv, hev, hk⟩
  · obtain ⟨w, hw, rfl⟩ := Option.map_eq_some_iff.mp he
    exact PortInvariant.restart hi hc hw
  · refine (reconcile_safe (D := portDiscipline _ _) (w := Serving.world)
      (A := fun tr s => AllocationsHeld req tr s.world) r req (fun {op c s ans s'} he => ⟨c, ?_⟩)
      (fun hi => hi.wf) (fun hr => hr.1)
      (fun h hr _ => h.keeps hr.2) (fun hn hp hr hal hi he _ => ?_)
      (fun _ _ ha => by cases ha)).mono fun _ _ _ _ => trivial
    · obtain ⟨h₁, rfl⟩ := Prod.mk.inj he
      exact Prod.ext h₁ rfl
    · obtain ⟨hinv, hal'⟩ := portInvariant_step hn hp hr hal hi he
      exact ⟨hinv, trivial, hal'⟩

def allocatingReconciler : TunnelReconciler := ⟨true, false, ⟨"", ""⟩, "", "", ""⟩

def allocatingServer : ServerConfig := ⟨true, ⟨"", ""⟩⟩

abbrev ServingEvent := Event NamespacedName Choice Serving.Outside (List Tunnel)

/-- A Tunnel is created and gets the first free port from `start` on. -/
def provision (k : NamespacedName) (start : ℕ) : List ServingEvent :=
  [.env (.cluster (.createTunnel k [] spec)), .start k] ++ calls 6 ++ [.call { start := start }] ++
    calls 3

/-- Its gateway comes up and is confirmed, so that `GetConfig` serves the Tunnel. -/
def confirm (k : NamespacedName) : List ServingEvent :=
  [.env (.cluster (.setPodStatus (gatewayResourceKey k) (running "10.1.0.1"))), .start k] ++
    calls 3 ++
    [.call { gatewayStatus := .ok "key" }] ++ calls 2

def remove (k : NamespacedName) : List ServingEvent :=
  [.env (.cluster (.deleteTunnel k)), .start k] ++ calls 7

def allPass : Machine.Checks Op.Ans Serving Serving.Outside (List Tunnel) where
  env := fun e s => match e with
    | .serve i _ => loadsCurrent i s
    | _ => true
  crash := fun listed _ => decide (ListsOutgoingLast listed)

def livePort (g : Config Op.Ans (Except String Result) NamespacedName Serving)
    (k : NamespacedName) :
    Option Int :=
  ((g.state.world.tunnels.lookup k).filter fun t => t.Live).map fun t => t.status.forwarderPort

theorem livePort_eq_some {g : Config Op.Ans (Except String Result) NamespacedName Serving}
    {k : NamespacedName} {p : Int} (h : livePort g k = some p) :
    ∃ t, g.state.world.tunnels.lookup k = some t ∧ t.Live ∧ t.status.forwarderPort = p := by
  obtain ⟨t, ht, hp⟩ := Option.map_eq_some_iff.mp h
  obtain ⟨ht, hl⟩ := Option.filter_eq_some_iff.mp ht
  exact ⟨t, ht, by simpa using hl, hp⟩

theorem live_tunnels_distinct_provision : ∃ g t,
    (servingOperator allocatingReconciler allocatingServer 1 2).Reaches keepsPorts
      ⟨World.initial (PortAllocator.new 1 2), []⟩ g ∧
      g.state.world.tunnels.lookup key = some t ∧ t.Live ∧ t.status.forwarderPort = 2 ∧
      ∀ t', g.state.world.tunnels.lookup otherKey = some t' → t'.Live →
        t'.status.forwarderPort ≠ 2 := by
  obtain ⟨g, hg, hP⟩ := Machine.exists_reaches
    (M := servingOperator allocatingReconciler allocatingServer 1 2) (C := keepsPorts)
    (K := allPass)
    (s := ⟨World.initial (PortAllocator.new 1 2), []⟩)
    (fun e _ h => by cases e <;> first | exact h | trivial)
    (fun listed _ h => of_decide_eq_true (p := ListsOutgoingLast listed) h)
    (fun _ _ _ => trivial)
    (l := provision key 1 ++ provision otherKey 1 ++ [.env .getConfig] ++
      [.env (.serve 0 {}), .env (.serve 0 {})])
    (P := fun g => livePort g key = some 2 && livePort g otherKey = some 1) (by rfl)
  simp only [Bool.and_eq_true, decide_eq_true_eq] at hP
  obtain ⟨t, ht, hl, hp⟩ := livePort_eq_some hP.1
  refine ⟨g, t, hg, ht, hl, hp, fun t' ht' hl' hp' => ?_⟩
  have heq := live_tunnels_have_distinct_ports allocatingReconciler allocatingServer 1 2 hg ht ht'
    hl hl'
    (by rw [hp]; decide) (hp'.trans hp.symm)
  exact absurd heq (by decide)

/-- A `GetConfig` that listed a Tunnel before it was deleted and re-created moves the new one
back to the old port, and the allocator gives its port away. -/
theorem live_tunnels_share_port : ∃ g t t',
    (servingOperator allocatingReconciler allocatingServer 1 2).Reaches {}
      ⟨World.initial (PortAllocator.new 1 2), []⟩ g ∧
      g.state.world.tunnels.lookup key = some t ∧ g.state.world.tunnels.lookup otherKey = some t' ∧
      t.Live ∧ t'.Live ∧ t.status.forwarderPort = 2 ∧ t'.status.forwarderPort = 2 := by
  obtain ⟨g, hg, hP⟩ := Machine.exists_free_reaches
    (M := servingOperator allocatingReconciler allocatingServer 1 2)
    (s := ⟨World.initial (PortAllocator.new 1 2), []⟩)
    (l := provision key 0 ++ confirm key ++ [.env .getConfig, .env (.serve 0 {})] ++ remove key ++
      provision key 1 ++ [.env (.serve 0 {})] ++ provision otherKey 1)
    (P := fun g => livePort g key = some 2 && livePort g otherKey = some 2) (by rfl)
  simp only [Bool.and_eq_true, decide_eq_true_eq] at hP
  obtain ⟨t, ht, hl, hp⟩ := livePort_eq_some hP.1
  obtain ⟨t', ht', hl', hp'⟩ := livePort_eq_some hP.2
  exact ⟨g, t, t', hg, ht, ht', hl, hl', hp, hp'⟩

end TunnelOperator
