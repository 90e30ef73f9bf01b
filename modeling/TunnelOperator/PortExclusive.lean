import TunnelOperator.PortRestore
import TunnelOperator.Snapshot

/-!
# Forwarder ports are exclusive

The recorded ports of live Tunnels and the in-memory allocator have to agree while
`Reconcile` calls, `GetConfig` calls in flight and restarts interleave. The allocator holds
the port of every live Tunnel, unless a `LoadExisting` moves a Tunnel away from its port or
a restart lists a Tunnel that is on its way out before the one that has its port now.
-/

namespace TunnelOperator
open Interaction TunnelReconciler

/-- An operator that serves `GetConfig` calls, each of them somewhere in its program. -/
structure Serving where
  world : World
  calls : List (ServerProg (Except String ForwarderConfig))

namespace Serving

inductive Outside where
  | cluster (e : World.Outside)
  | getConfig
  | serve (i : ℕ) (c : ServerChoice)

def serve (i : ℕ) (c : ServerChoice) (s : Serving) : Option Serving :=
  match s.calls[i]? with
  | none => none
  | some (.pure _) => some { s with calls := s.calls.eraseIdx i }
  | some (.call op next) =>
      let a := World.serverExec op c s.world
      some ⟨a.2, s.calls.set i (next a.1)⟩

def outside (cfg : ServerConfig) (s : Serving) : Outside → Option Serving
  | .cluster e => (s.world.outside e).map fun w => { s with world := w }
  | .getConfig => some { s with calls := s.calls ++ [cfg.getConfig] }
  | .serve i c => s.serve i c

def exec (op : Op) (c : Choice) (s : Serving) : op.Ans × Serving :=
  let a := World.exec op c s.world
  (a.1, { s with world := a.2 })

end Serving

/-- One operator process: `Reconcile` calls one at a time, `GetConfig` calls at any time, and
restarts that list every Tunnel in some order. -/
def servingOperator (r : TunnelReconciler) (cfg : ServerConfig) (minPort maxPort : Int) :
    Machine Op.Ans (Except String Result) NamespacedName Serving Choice Serving.Outside
      (List Tunnel) where
  exec := Serving.exec
  program := r.reconcile
  onStart := fun _ s => s
  env := fun e s => s.outside cfg e
  crash := fun listed s => (s.world.restart minPort maxPort (some listed)).map fun w => ⟨w, []⟩

/-- The next step of the call does not move a Tunnel to a free port while it holds another. -/
def loadsCurrent (i : ℕ) (s : Serving) : Bool :=
  match s.calls[i]? with
  | some (.call (.loadExisting key port) _) =>
      (s.world.allocator.getPort key).all fun q => q = port || s.world.allocator.isAllocated port
  | _ => true

/-- No live Tunnel is listed after one on its way out that has recorded the same port. -/
def ListsOutgoingLast (listed : List Tunnel) : Prop :=
  listed.Pairwise fun t' t => ¬ t'.Live → t.Live → t.status.forwarderPort ≠ 0 →
    t'.status.forwarderPort ≠ t.status.forwarderPort

instance (listed : List Tunnel) : Decidable (ListsOutgoingLast listed) :=
  inferInstanceAs (Decidable (List.Pairwise _ _))

def keepsPorts : Machine.Conditions Op.Ans Serving Serving.Outside (List Tunnel) where
  env := fun e s => match e with
    | .serve i _ => loadsCurrent i s = true
    | _ => True
  crash := fun listed _ => ListsOutgoingLast listed

structure PortInvariant (lo hi : Int) (w : World) : Prop where
  wf : w.WF
  allocator : w.allocator.WF
  minPort : w.allocator.minPort = lo
  maxPort : w.allocator.maxPort = hi
  holds : ∀ {k t}, w.tunnels.lookup k = some t → t.Live → w.allocator.Holds t

def portDiscipline (lo hi : Int) : Discipline Op.Ans Serving Choice where
  exec := Serving.exec
  allowed := fun _ _ => True
  inv := fun s => PortInvariant lo hi s.world
  rely := fun s s' => s.world.Evolves s'.world ∧ KeepsHeld s.world.allocator s'.world.allocator
  goal := fun _ _ _ => True
  rely_refl := fun s => ⟨World.Evolves.refl s.world, fun _ _ h => h⟩
  rely_trans := fun h h' => ⟨h.1.trans h'.1, fun k p hk => h'.2 k p (h.2 k p hk)⟩

section Steps

variable {lo hi : Int} {w w' : World}

theorem PortInvariant.follows (h : PortInvariant lo hi w) (hwf : w'.WF) (hf : w.Follows w')
    (ha : w'.allocator.WF) (hmin : w'.allocator.minPort = w.allocator.minPort)
    (hmax : w'.allocator.maxPort = w.allocator.maxPort) (hk : KeepsHeld w.allocator w'.allocator) :
    PortInvariant lo hi w' where
  wf := hwf
  allocator := ha
  minPort := hmin.trans h.minPort
  maxPort := hmax.trans h.maxPort
  holds := fun ht hl hp => by
    rcases hf.back ht with ⟨t, ht₀, hlat⟩ | ⟨-, -, hs⟩
    · rw [hlat.key, hlat.status] at *
      exact hk _ _ (h.holds ht₀ (hlat.live hl) hp)
    · rw [hs] at hp
      exact absurd rfl hp

theorem PortInvariant.sameAllocator (h : PortInvariant lo hi w) (hwf : w'.WF) (hf : w.Follows w')
    (ha : w'.allocator = w.allocator) : PortInvariant lo hi w' :=
  h.follows hwf hf (ha ▸ h.allocator) (by rw [ha]) (by rw [ha]) (by rw [ha]; exact fun _ _ hk => hk)

theorem loadExisting_keepsHeld {a : PortAllocator} (ha : a.WF) {key : String} {port : Int}
    (h : ∀ q, a.allocated.lookup key = some q → q = port ∨ a.isAllocated port = true) :
    KeepsHeld a (a.loadExisting key port) := by
  intro k p hk
  rcases a.loadExisting_cases key port with ⟨he, -⟩ | ⟨⟨-, -, hfree⟩, u, he, -⟩
  · rw [he]; exact hk
  · rw [he]
    refine (Table.lookup_insert_eq _ _ _ _).trans ?_
    split_ifs with hkey
    · subst hkey
      rcases h p hk with rfl | hused
      · rfl
      · obtain ⟨k', hk'⟩ := Option.isSome_iff_exists.mp hused
        have hinv := (ha.inverse k port).mpr (hfree k' hk' ▸ hk')
        rw [hk] at hinv
        exact hinv.symm
    · exact hk

end Steps

section Reconcile

variable {r : TunnelReconciler} {req : NamespacedName} {tr : Trace} {lo hi : Int} {w w' : World}

theorem PortInvariant.release (h : PortInvariant lo hi w) (hr : Reads req tr w) (hu : Unpatched tr)
    {key : String} (hn : Next r req tr (.release key)) :
    PortInvariant lo hi { w with allocator := w.allocator.release key } := by
  obtain ⟨t₀, t, hd, -, rfl⟩ := hn
  have hkey : t.key = t₀.key := by rw [hr.dropped_eq hd]
  obtain ⟨hmin, hmax⟩ := w.allocator.release_range (tunnelKey t.key)
  have hs : w.SameTunnels { w with allocator := w.allocator.release (tunnelKey t.key) } :=
    ⟨rfl, rfl, rfl⟩
  refine ⟨hs.wf h.wf, PortAllocator.release_wf h.allocator _, hmin.trans h.minPort,
    hmax.trans h.maxPort, fun {k t'} ht hl hp => ?_⟩
  refine (PortAllocator.release_lookup _ _ _).trans ?_
  rw [if_neg]
  · exact h.holds ht hl hp
  · intro he
    have hk : k = t₀.key := by rw [← h.wf.key ht, tunnelKey_injective he, hkey]
    rcases (hr.seen hu hd.retiring.read).stored t' (hk ▸ ht) with hlat | ⟨-, -, hs⟩
    · exact hd.retiring.not_live (hlat.live hl)
    · rw [hs] at hp
      exact hp rfl

theorem PortInvariant.patchStatus (h : PortInvariant lo hi w) (hr : Reads req tr w)
    (hu : Unpatched tr) (hal : AllocationsHeld req tr w) {x base : Tunnel}
    (hn : Next r req tr (.patchStatus x base)) {c : Choice} {ans : Except ApiError Tunnel}
    (he : World.exec (.patchStatus x base) c w = (ans, w')) : PortInvariant lo hi w' := by
  have hwf : w'.WF := by simpa [he] using World.exec_wf h.wf (.patchStatus x base) c
  have hsame : w.SameProcess w' := by
    simpa [he] using World.exec_sameProcess (o := .patchStatus x base) rfl c w
  obtain ⟨t₀, pod, allocated, changed, m, e, hc, -, rfl⟩ := hn
  rcases exec_patchStatus (hr.active_held hu hc.active) hc.key_eq he with
    ⟨rfl, -⟩ | ⟨cur, hl, hlat, -, rfl, -⟩
  · exact h
  have hport : e.tunnel.status.forwarderPort = m.status.forwarderPort :=
    hc.evaluated.sameMapping.forwarderPort
  refine ⟨hwf, hsame.allocator ▸ h.allocator, hsame.allocator ▸ h.minPort,
    hsame.allocator ▸ h.maxPort, fun {k t'} ht hl' hp => ?_⟩
  rw [hsame.allocator]
  rcases World.storeTunnel_found ht with ⟨-, rfl⟩ | ⟨-, ht⟩
  · simp only at hp ⊢
    rw [hport] at hp ⊢
    rcases hc.toMapped.forwarderPort with ⟨hpm, -⟩ | ⟨-, -, hans⟩
    · have hcur : cur.Live :=
        ⟨hl'.1, by rw [hlat.status, hr.active_eq hc.active]; exact hc.active.notTerminated⟩
      have hold := h.holds hl hcur
      rw [PortAllocator.Holds, hlat.status] at hold
      rw [hpm] at hp ⊢
      exact hold hp
    · rw [hlat.key]
      exact (hal _ _ hans).2
  · exact h.holds ht hl' hp

theorem portInvariant_step {op : Op} {c : Choice} {s s' : Serving} {ans : op.Ans}
    (hn : Next r req tr op) (hp : PatchesOnce r tr op) (hr : Reads req tr s.world)
    (hal : AllocationsHeld req tr s.world) (hinv : PortInvariant lo hi s.world)
    (he : Serving.exec op c s = (ans, s')) :
    PortInvariant lo hi s'.world ∧ AllocationsHeld req (tr ++ [⟨op, ans⟩]) s'.world := by
  have hw : World.exec op c s.world = (ans, s'.world) := by
    obtain ⟨h₁, rfl⟩ := Prod.mk.inj he
    exact Prod.ext h₁ rfl
  refine ⟨?_, hal.step hinv.allocator hr.unique hn hw⟩
  have hwf : s'.world.WF := by simpa [hw] using World.exec_wf hinv.wf op c
  -- the operations that touch neither the allocator nor a status
  have hother : op.isPatch = false → (∀ k, op ≠ .allocate k) → (∀ k, op ≠ .release k) →
      PortInvariant lo hi s'.world := by
    intro hpatch halloc hrel
    have hf : s.world.Follows s'.world := by simpa [hw] using World.exec_follows hinv.wf hpatch c
    have ha : s'.world.allocator = s.world.allocator := by
      simpa [hw] using World.exec_allocator halloc hrel c s.world
    exact hinv.sameAllocator hwf hf ha
  cases op with
  | patchStatus x base => exact hinv.patchStatus hr (hp.unpatched (by simp)) hal hn hw
  | allocate key =>
      have hf := (World.exec_sameTunnels (o := .allocate key) rfl c s.world).evolves.toFollows
      obtain ⟨-, rfl⟩ := Prod.mk.inj he
      obtain ⟨hmin, hmax⟩ := s.world.allocator.allocate_range c.start key
      exact hinv.follows hwf hf
        (PortAllocator.allocate_wf hinv.allocator _ _) hmin hmax
        (allocate_keepsHeld hinv.allocator _ _)
  | release key =>
      obtain ⟨-, rfl⟩ := Prod.mk.inj he
      exact hinv.release hr (hp.unpatched (by simp)) hn
  | _ => exact hother rfl (by simp) (by simp)

end Reconcile

end TunnelOperator
